import TypeSchema.Text.Words
/-!
# Tables of code points

Tables that are written as lines of words. A word gives code points in base sixteen: `a`, or
the range `a-b`, and after a colon what belongs to them.

* A table of ranges says which characters have a property.
* A table of rows maps ranges to ranges of the same length.
* A table of sequences maps characters to several.
-/

namespace TypeSchema.Text.Table

/-- The value of a digit in base sixteen. -/
def digit (c : Char) : Nat :=
  if c.isDigit then c.toNat - '0'.toNat else c.toLower.toNat - 'a'.toNat + 10

/-- The number that some digits in base sixteen spell. -/
def number (cs : List Char) : Nat := cs.foldl (fun n c => 16 * n + digit c) 0

/-- The words of a line. -/
def words (line : String) : List (List Char) := splitAt (· == ' ') line.toList

/-- What stands before and after the first separator; nothing after a missing one. -/
def halves (separator : Char) (cs : List Char) : List Char × List Char :=
  (cs.takeWhile (· ≠ separator), (cs.dropWhile (· ≠ separator)).drop 1)

/-- The ends of a written range. -/
def range (cs : List Char) : Nat × Nat :=
  match halves '-' cs with
  | (lo, []) => (number lo, number lo)
  | (lo, hi) => (number lo, number hi)

/-- Whether a number lies in a written range. -/
def inRange (n : Nat) (cs : List Char) : Bool :=
  let (lo, hi) := range cs
  lo ≤ n && n ≤ hi

/-- Whether a number lies in a range of a table. -/
def contains (table : List String) (n : Nat) : Bool :=
  table.any fun line => (words line).any (inRange n)

/-- What the first word does for a number that it covers, if some word covers it. -/
def find? {α : Type} (table : List String) (n : Nat) (read : Nat → List Char → α) :
    Option α :=
  table.findSome? fun line => (words line).findSome? fun word =>
    let (source, target) := halves ':' word
    let (lo, hi) := range source
    if lo ≤ n ∧ n ≤ hi then some (read (n - lo) target) else none

/-- The image of a number in a table of rows in which every `step`-th number has one. -/
def image? (step : Nat) (table : List String) (n : Nat) : Option Nat :=
  match find? table n fun offset target => (offset % step, number target + offset) with
  | some (0, m) => some m
  | _ => none

/-- The numbers that belong to a number in a table of sequences. -/
def sequence? (table : List String) (n : Nat) : Option (List Nat) :=
  find? table n fun _ target => (splitAt (· == '+') target).map number

end TypeSchema.Text.Table
