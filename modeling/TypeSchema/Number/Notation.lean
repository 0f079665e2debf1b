import TypeSchema.Number.Binary64
import TypeSchema.Text.Numeral
/-!
# Numbers in decimal notation

Reading numbers of double width, and complex numbers made of two of them, from text. Blanks may stand
around a number, the digits may be those of any script, and single underscores may stand between
digits.

A reader of a number takes the longest numeral at the start of a text and returns what follows it; a
text spells a number if nothing is left.
-/

namespace TypeSchema.Number.Notation

/-- A character with the digit of its value in place of a digit of another script, and a space in
place of another blank. -/
def plainCharacter (c : Char) : Char :=
  match Text.Numeral.digit? c with
  | some d => Char.ofNat ('0'.toNat + d)
  | none => if Text.isBlank c then ' ' else c

/-- A text in plain characters without the blanks around it. -/
def plainForm (cs : List Char) : List Char :=
  (Text.Numeral.trimmed cs).map plainCharacter

/-- A text without its underscores, each of which has to stand between two digits; `previous` is the
character before the text. -/
def withoutUnderscores? (previous : Char) : List Char → Option (List Char)
  | [] => some []
  | '_' :: cs =>
    if previous.isDigit && cs.head?.any Char.isDigit then withoutUnderscores? '_' cs else none
  | c :: cs => (withoutUnderscores? c cs).map (c :: ·)

/-- The value of some digits. -/
def valueOf (ds : List Char) : Nat := ds.foldl (fun n d => 10 * n + (d.toNat - '0'.toNat)) 0

/-- A sign at the start of a text, and what follows it. -/
def signed : List Char → Bool × List Char
  | '-' :: cs => (true, cs)
  | '+' :: cs => (false, cs)
  | cs => (false, cs)

/-- The exponent at the start of a text, if there is one. -/
def exponent (cs : List Char) : Int × List Char :=
  match cs with
  | e :: rest =>
    let (isNegative, rest) := signed rest
    let ds := rest.takeWhile Char.isDigit
    if (e = 'e' ∨ e = 'E') ∧ ds ≠ [] then
      let size : Int := valueOf ds
      (if isNegative then -size else size, rest.dropWhile Char.isDigit)
    else (0, cs)
  | [] => (0, cs)

/-- What follows a word at the start of a text, in upper or lower case. -/
def afterWord? (word : String) (cs : List Char) : Option (List Char) :=
  let n := word.length
  if (cs.take n).map Char.toLower = word.toList then some (cs.drop n) else none

/-- The number at the start of a text without a sign. -/
def unsigned? (cs : List Char) : Option (Binary64 × List Char) :=
  let infinity : Binary64 := ⟨(Binary64.topExponent * Binary64.mantissaLimit).toUInt64⟩
  let undefined : Binary64 :=
    ⟨(Binary64.topExponent * Binary64.mantissaLimit + Binary64.mantissaLimit / 2).toUInt64⟩
  match afterWord? "infinity" cs <|> afterWord? "inf" cs, afterWord? "nan" cs with
  | some rest, _ => some (infinity, rest)
  | none, some rest => some (undefined, rest)
  | none, none =>
    let whole := cs.takeWhile Char.isDigit
    let afterWhole := cs.dropWhile Char.isDigit
    let (fraction, rest) := match afterWhole with
      | '.' :: rest => (rest.takeWhile Char.isDigit, rest.dropWhile Char.isDigit)
      | rest => ([], rest)
    if whole = [] ∧ fraction = [] then none
    else
      let (power, rest) := exponent rest
      some (.ofDecimal (valueOf (whole ++ fraction)) (power - fraction.length), rest)

/-- The number at the start of a text. -/
def number? (cs : List Char) : Option (Binary64 × List Char) :=
  let (isNegative, rest) := signed cs
  (unsigned? rest).map fun (x, rest) => (if isNegative then x.negate else x, rest)

/-- The number that a text spells. -/
def double? (cs : List Char) : Option Binary64 := do
  match ← number? (← withoutUnderscores? ' ' (plainForm cs)) with
  | (x, []) => some x
  | _ => none

/-! ## Complex numbers -/

/-- What follows the letter of an imaginary part. -/
def afterUnit? : List Char → Option (List Char)
  | 'j' :: cs | 'J' :: cs => some cs
  | _ => none

/-- An imaginary part, which may be a sign alone or nothing, up to its letter. -/
def imaginary? (cs : List Char) : Option (Binary64 × List Char) :=
  match number? cs with
  | some (y, rest) => (afterUnit? rest).map fun rest => (y, rest)
  | none =>
    let (isNegative, rest) := signed cs
    let one := Binary64.ofDecimal 1 0
    (afterUnit? rest).map fun rest => (if isNegative then one.negate else one, rest)

/-- A complex number at the start of a text: a real part, an imaginary part, or both. -/
def parts? (cs : List Char) : Option ((Binary64 × Binary64) × List Char) :=
  match number? cs with
  | none => (imaginary? cs).map fun (y, rest) => ((⟨0⟩, y), rest)
  | some (x, rest) =>
    match rest with
    | '+' :: _ | '-' :: _ => (imaginary? rest).map fun (y, rest) => ((x, y), rest)
    | rest =>
      match afterUnit? rest with
      | some rest => some ((⟨0⟩, x), rest)
      | none => some ((x, ⟨0⟩), rest)

/-- The complex number that a text without underscores spells, perhaps in parentheses. -/
def complex? (cs : List Char) : Option (Binary64 × Binary64) := do
  let skip (cs : List Char) : List Char := cs.dropWhile (· == ' ')
  match plainForm cs with
  | '(' :: inside =>
    let (z, rest) ← parts? (skip inside)
    match skip rest with
    | ')' :: rest => if skip rest = [] then some z else none
    | _ => none
  | plain =>
    let (z, rest) ← parts? plain
    if rest = [] then some z else none

end TypeSchema.Number.Notation
