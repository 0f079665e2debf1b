import TypeSchema.Text.Cells
import TypeSchema.Text.Words
/-!
# The screen

How printed text fills the lines of a screen: tabs reach to the next eighth column, and a text that
does not fit its width is broken between words, the last line of which may be cut.

A screen is as wide as messages need; only the columns of tables are narrow. A column is as wide
as its widest cell, where a tab counts for nothing.
-/

namespace TypeSchema.Console.Screen

/-- The distance of tab stops. -/
def tabWidth : Nat := 8

/-- A line from a column on with its tabs as blanks. -/
def expandFrom (column : Nat) : List Char → List Char
  | [] => []
  | '\t' :: cs =>
    let blanks := tabWidth - column % tabWidth
    List.replicate blanks ' ' ++ expandFrom (column + blanks) cs
  | c :: cs => c :: expandFrom (column + Text.Cells.ofChar c) cs

/-- A line with its tabs as blanks. -/
def expandTabs (cs : List Char) : List Char := expandFrom 0 cs

/-- The lines that are seen of a printed text, without blanks at their ends. -/
def seenLines (cs : List Char) : List String :=
  let printed := (Text.splitAt (· == '\n') cs).map expandTabs
  (printed.flatMap Text.lines).map fun line => String.ofList (Text.trimRight line)

/-! ## Cells of tables -/

/-- The width of a cell: that of its widest line. -/
def cellWidth (cs : List Char) : Nat :=
  ((Text.lines cs).map Text.Cells.width).foldl max 0

/-- The words of a line, each with the blanks around it; blanks between two words belong to the
first. -/
def spacedWords : (steps : Nat) → List Char → List (List Char)
  | 0, _ => []
  | steps + 1, cs =>
    let before := cs.takeWhile Text.isBlank
    let rest := cs.drop before.length
    let word := rest.takeWhile fun c => !Text.isBlank c
    let rest := rest.drop word.length
    let after := rest.takeWhile Text.isBlank
    if word.isEmpty then []
    else (before ++ word ++ after) :: spacedWords steps (rest.drop after.length)

/-- Distribute words over lines of a width; `line` holds the words of the current line in
reverse and `used` the columns they take. A word that fits no line takes no columns at the start
of a line. -/
def fill (width : Nat) (line : List (List Char)) (used : Nat) :
    List (List Char) → List (List Char)
  | [] => [line.reverse.flatten]
  | word :: words =>
    let size := Text.Cells.width (Text.trimRight word)
    if used + size ≤ width then
      fill width (word :: line) (used + Text.Cells.width word) words
    else if used ≠ 0 then
      line.reverse.flatten :: fill width [word] (Text.Cells.width word) words
    else fill width (word :: line) used words

/-- A line without the blanks at its end that reach beyond a width. -/
def dropOverhang (width : Nat) (cs : List Char) : List Char :=
  let blanks := cs.length - (Text.trimRight cs).length
  cs.take (cs.length - min blanks (cs.length - width))

/-- The start of a line that takes a number of columns, found by halving the places from
`start` to `stop`; half of a wide character becomes a blank. -/
def cropBetween (columns : Nat) (cs : List Char) : (steps start stop : Nat) → List Char
  | 0, start, _ => cs.take start
  | steps + 1, start, stop =>
    let place := (start + stop) / 2
    let before := cs.take (place + 1)
    let size := Text.Cells.width before
    if size = columns + 1 ∧ (before.getLast?.map Text.Cells.ofChar) = some 2 then
      before.dropLast ++ [' ']
    else if size = columns then before
    else if columns < size then cropBetween columns cs steps start place
    else cropBetween columns cs steps place stop

/-- The start of a line that takes a number of columns. -/
def crop (columns : Nat) (cs : List Char) : List Char :=
  if columns = 0 then [] else cropBetween columns cs (cs.length + 1) 0 cs.length

/-- A line cut to a width; a cut is marked by three dots in one character. -/
def truncate (width : Nat) (cs : List Char) : List Char :=
  if width < Text.Cells.width cs then crop (width - 1) cs ++ ['…'] else cs

/-- The lines of a cell in a column of a width. -/
def cellLines (width : Nat) (cs : List Char) : List (List Char) :=
  (Text.splitAt (· == '\n') cs).flatMap fun line =>
    let line := expandTabs line
    let words := spacedWords line.length line
    let parts := if words.isEmpty then [line] else fill width [] 0 words
    parts.map fun part => truncate width (dropOverhang width part)

/-- The rows that are seen of a row of cells in columns of some widths: as many as its highest
cell has lines. -/
def seenRows (widths : List Nat) (cells : List (List Char)) : List (List String) :=
  let columns := (widths.zip cells).map fun (width, cs) => cellLines width cs
  let height := (columns.map List.length).foldl max 0
  (List.range height).map fun i => columns.map fun lines =>
    String.ofList (Text.trim (lines.getD i []))

/-- The rows that are seen of a table with headings over its columns; the widths of some columns
are fixed. -/
def seenTable (headings : List (String × Option Nat)) (rows : List (List (List Char))) :
    List (List String) :=
  let widths := headings.zipIdx.map fun ((heading, fixed), i) =>
    fixed.getD ((rows.map fun row => cellWidth (row.getD i [])).foldl max heading.length)
  rows.flatMap (seenRows widths)

end TypeSchema.Console.Screen
