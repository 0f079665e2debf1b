import TypeSchema.Text.Compatibility.Data
import TypeSchema.Text.Table
/-!
# The compatibility form of names

Names that differ only in how their letters are encoded or styled are the same name. They are
compared in Unicode's compatibility form (NFKC):

1. every character is replaced by the characters it stands for;
2. combining marks in a row are sorted by their classes;
3. a letter and the marks after it are composed where a composed character exists.

Hangul syllables are taken apart and composed by arithmetic.
-/

namespace TypeSchema.Text.Compatibility

/-- The letters of a Hangul syllable: a lead, a vowel and perhaps a tail. -/
def syllableLetters (n : Nat) : List Nat :=
  let i := n - 0xac00
  let tail := i % 28
  [0x1100 + i / 588, 0x1161 + i % 588 / 28] ++ if tail = 0 then [] else [0x11a7 + tail]

/-- The characters that a character stands for. -/
def expand (n : Nat) : List Nat :=
  if n < 0x80 then [n]
  else if 0xac00 ≤ n ∧ n ≤ 0xd7a3 then syllableLetters n
  else match Table.image? 1 singles n with
    | some m => [m]
    | none => (Table.sequence? sequences n).getD [n]

/-- The combining class of a character: zero for one that starts a row. -/
def combiningClass (n : Nat) : Nat :=
  if n < 0x300 then 0 else (Table.find? classes n fun _ target => Table.number target).getD 0

/-- Insert a mark, with its class, behind the marks at the end of a reversed text whose class
is not greater. -/
def insertMark (mark : Nat × Nat) : List (Nat × Nat) → List (Nat × Nat)
  | [] => [mark]
  | m :: ms => if mark.2 < m.2 then m :: insertMark mark ms else mark :: m :: ms

/-- A text with its marks in order; each character comes with its class. -/
def sortMarks (marked : List (Nat × Nat)) : List (Nat × Nat) :=
  (marked.foldl (fun done m => if m.2 = 0 then m :: done else insertMark m done) []).reverse

/-- The character that two characters compose. -/
def compose? (first second : Nat) : Option Nat :=
  if 0x1100 ≤ first ∧ first < 0x1113 ∧ 0x1161 ≤ second ∧ second < 0x1176 then
    some (0xac00 + ((first - 0x1100) * 21 + (second - 0x1161)) * 28)
  else if 0xac00 ≤ first ∧ first ≤ 0xd7a3 ∧ (first - 0xac00) % 28 = 0 ∧
      0x11a8 ≤ second ∧ second < 0x11c3 then
    some (first + (second - 0x11a7))
  else pairs.findSome? fun line => (Table.words line).findSome? fun word =>
    let (source, target) := Table.halves ':' word
    let (a, b) := Table.halves '+' target
    if Table.number a = first ∧ Table.number b = second then some (Table.number source)
    else none

/-- Compose a text. `starter` is the last character that starts a row, `kept` are the marks
since then in reverse, and `blocking` is the class of the last of them. -/
def composeFrom (starter : Option Nat) (kept : List Nat) (blocking : Nat) :
    List (Nat × Nat) → List Nat
  | [] => starter.toList ++ kept.reverse
  | (n, k) :: rest =>
    let joined := match starter with
      | some s => if blocking = 0 ∧ kept.isEmpty ∨ blocking < k then compose? s n else none
      | none => none
    match joined with
    | some m => composeFrom (some m) kept blocking rest
    | none =>
      if k = 0 then starter.toList ++ kept.reverse ++ composeFrom (some n) [] 0 rest
      else composeFrom starter (n :: kept) k rest

/-- The compatibility form of a list of code points. -/
def normalize (ns : List Nat) : List Nat :=
  let marked := (ns.flatMap expand).map fun n => (n, combiningClass n)
  composeFrom none [] 0 (sortMarks marked)

/-- The compatibility form of a name. A name in ASCII is its own. -/
def ofName (s : String) : String :=
  if s.toList.all fun c => c.toNat < 0x80 then s
  else String.ofList ((normalize (s.toList.map Char.toNat)).map Char.ofNat)

end TypeSchema.Text.Compatibility
