/-!
# Words and lines

Blanks and line breaks, and the ways in which a text is taken apart at them. Texts are lists of
characters here, so that every function is a recursion on the list.
-/

namespace TypeSchema.Text

/-- A character that separates words. -/
def isBlank (c : Char) : Bool :=
  let n := c.toNat
  (0x09 ≤ n && n ≤ 0x0d) || (0x1c ≤ n && n ≤ 0x20) || n == 0x85 || n == 0xa0 || n == 0x1680 ||
    (0x2000 ≤ n && n ≤ 0x200a) || n == 0x2028 || n == 0x2029 || n == 0x202f || n == 0x205f ||
    n == 0x3000

/-- A character that ends a line. -/
def isLineBreak (c : Char) : Bool :=
  let n := c.toNat
  (0x0a ≤ n && n ≤ 0x0d) || (0x1c ≤ n && n ≤ 0x1e) || n == 0x85 || n == 0x2028 || n == 0x2029

/-- A character that ends a line also separates words. -/
theorem isBlank_of_isLineBreak {c : Char} (h : isLineBreak c = true) : isBlank c = true := by
  simp only [isLineBreak, isBlank, Bool.or_eq_true, Bool.and_eq_true, decide_eq_true_eq,
    beq_iff_eq] at h ⊢
  omega

/-- The parts of a text between separators, at least one. -/
def splitAt (isSeparator : Char → Bool) : List Char → List (List Char)
  | [] => [[]]
  | c :: cs =>
    if isSeparator c then [] :: splitAt isSeparator cs
    else match splitAt isSeparator cs with
      | first :: rest => (c :: first) :: rest
      | [] => [[c]]

/-- A text without the blanks at its start. -/
def trimLeft (cs : List Char) : List Char := cs.dropWhile isBlank

/-- A text without the blanks at its end. -/
def trimRight (cs : List Char) : List Char := (trimLeft cs.reverse).reverse

/-- A text without the blanks around it. -/
def trim (cs : List Char) : List Char := trimRight (trimLeft cs)

/-- The words of a text. -/
def words (cs : List Char) : List (List Char) :=
  (splitAt isBlank cs).filter (· ≠ [])

/-- The lines of a text. A carriage return and the line feed after it end a line together, and
a break at the end of the text starts no other line. -/
def lines : List Char → List (List Char)
  | [] => []
  | '\r' :: '\n' :: cs => [] :: lines cs
  | c :: cs =>
    if isLineBreak c then [] :: lines cs
    else match lines cs, cs with
      | first :: rest, d :: _ =>
        if isLineBreak d then [c] :: rest else (c :: first) :: rest
      | _, _ => [[c]]

end TypeSchema.Text
