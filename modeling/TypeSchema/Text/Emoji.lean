import TypeSchema.Text.Emoji.Data
import TypeSchema.Text.Words
/-!
# Emoji by name

In a printed message an emoji may be written by its name between colons, as in `:cat:`. The name
may end in `-text` or `-emoji`, which asks for the plain or the coloured form. A name that no
emoji has stays as it is written.
-/

namespace TypeSchema.Text.Emoji

/-- The lower-case form of a letter, for all letters that stand in names of emoji. -/
def lower (c : Char) : Char :=
  let n := c.toNat
  if 0xc0 ≤ n ∧ n ≤ 0xde ∧ n ≠ 0xd7 then Char.ofNat (n + 0x20)
  else if n = 0x212a then 'k'
  else if n = 0x212b then 'å'
  else c.toLower

/-- The characters of the emoji that has a name. -/
def find? (name : List Char) : Option (List Char) :=
  let name := name.map lower
  entries.findSome? fun (codes, names) =>
    if (splitAt (· == ' ') names.toList).contains name then some (codes.map Char.ofNat) else none

/-- The forms that the end of a name may ask for, with the characters that select them. -/
def variants : List (List Char × Char) :=
  [("-emoji".toList, Char.ofNat 0xfe0f), ("-text".toList, Char.ofNat 0xfe0e)]

/-- What ends a name: the form it asks for, if any, and what follows the colon. -/
def ending? (cs : List Char) : Option (Option Char × List Char) :=
  let asked := variants.findSome? fun (suffix, selector) =>
    if (suffix ++ [':']).isPrefixOf cs then some (some selector, cs.drop (suffix.length + 1))
    else none
  match asked, cs with
  | some found, _ => some found
  | none, ':' :: rest => some (none, rest)
  | none, _ => none

/-- The shortest name at the start of a text, which has no blank in it, with its ending. -/
def name? : List Char → Option (List Char × Option Char × List Char)
  | [] => none
  | c :: cs =>
    match ending? (c :: cs) with
    | some (selector, rest) => some ([], selector, rest)
    | none =>
      if isBlank c then none
      else (name? cs).map fun (name, selector, rest) => (c :: name, selector, rest)

/-- A text with its named emoji in place, read in at most `steps` steps. -/
def replaceIn : (steps : Nat) → List Char → List Char
  | 0, cs => cs
  | _, [] => []
  | steps + 1, ':' :: cs =>
    match name? cs with
    | some (name, selector, rest) =>
      let written := (':' :: cs).take (cs.length + 1 - rest.length)
      let shown := match find? name with
        | some emoji => emoji ++ selector.toList
        | none => written
      shown ++ replaceIn steps rest
    | none => ':' :: replaceIn steps cs
  | steps + 1, c :: cs => c :: replaceIn steps cs

/-- A text with its named emoji in place. -/
def replace (cs : List Char) : List Char := replaceIn cs.length cs

end TypeSchema.Text.Emoji
