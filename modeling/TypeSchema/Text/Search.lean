import TypeSchema.Text.Words
/-!
# Searching texts

Where a text stands in another one, and what is left of a text that is cut or filled where another stands.
-/

namespace TypeSchema.Text.Search

/-- The first place from `place` on where a text stands in the rest of another. -/
def find? (part : List Char) (place : Nat) : List Char → Option Nat
  | [] => if part.isEmpty then some place else none
  | c :: cs => if part.isPrefixOf (c :: cs) then some place else find? part (place + 1) cs

/-- The last place from `place` on where a text stands in the rest of another. -/
def findLast? (part : List Char) (place : Nat) : List Char → Option Nat
  | [] => if part.isEmpty then some place else none
  | c :: cs =>
    match findLast? part (place + 1) cs with
    | some later => some later
    | none => if part.isPrefixOf (c :: cs) then some place else none

/-- The pieces of a text between occurrences of another that is not empty, in at most `cuts` cuts and
`steps` steps; the last piece is the first of the result. -/
def cut (part : List Char) : (steps cuts : Nat) → (piece : List Char) → List Char →
    List (List Char)
  | 0, _, piece, cs => [piece.reverse ++ cs]
  | _, 0, piece, cs => [piece.reverse ++ cs]
  | _, _, piece, [] => [piece.reverse]
  | steps + 1, cuts + 1, piece, c :: cs =>
    if part.isPrefixOf (c :: cs) then
      piece.reverse :: cut part steps cuts [] ((c :: cs).drop part.length)
    else cut part steps (cuts + 1) (c :: piece) cs

/-- The pieces of a text between occurrences of another that is not empty. -/
def pieces (part : List Char) (cuts : Nat) (cs : List Char) : List (List Char) :=
  cut part (cs.length + 1) cuts [] cs

/-- The words of a text, after `cuts` of which the rest stands as it is. -/
def wordsUpTo : (cuts : Nat) → (steps : Nat) → List Char → List (List Char)
  | _, 0, _ => []
  | 0, _, cs => if (trimLeft cs).isEmpty then [] else [trimLeft cs]
  | cuts + 1, steps + 1, cs =>
    let cs := trimLeft cs
    if cs.isEmpty then []
    else
      let word := cs.takeWhile fun c => !isBlank c
      word :: wordsUpTo cuts steps (cs.drop word.length)

/-- How often a text stands in another without overlap. -/
def count (part cs : List Char) : Nat :=
  if part.isEmpty then cs.length + 1 else (pieces part cs.length cs).length - 1

/-- A text with another one in place of a part, as often as `times`. -/
def replace (part other : List Char) (times : Nat) (cs : List Char) : List Char :=
  if part.isEmpty then
    let filled := (cs.zipIdx).flatMap fun (c, i) => if i < times then other ++ [c] else [c]
    if cs.length < times then filled ++ other else filled
  else other.intercalate (pieces part times cs)

end TypeSchema.Text.Search
