import TypeSchema.Text.CharacterName.Data
import TypeSchema.Text.Table
/-!
# Characters by name

A character may be written by the name that Unicode gives it. Upper and lower case are the same in
a name. The names of ideographs end in their code point, and those of Hangul syllables are put
together from their letters; the other names stand in a table.
-/

namespace TypeSchema.Text.CharacterName

/-- The ranges of ideographs whose names end in their code points. -/
def ideographs : List String :=
  ["3400-4dbf 4e00-9fff 20000-2a6df 2a700-2b738 2b740-2b81d 2b820-2cea1 2ceb0-2ebe0 30000-3134a"]

/-- Digits in base sixteen, upper case. -/
def isHex (c : Char) : Bool := c.isDigit || ('A' ≤ c && c ≤ 'F')

/-- The ideograph that has a name. -/
def ideograph? (name : List Char) : Option Nat :=
  let start := "CJK UNIFIED IDEOGRAPH-".toList
  let digits := name.drop start.length
  if start.isPrefixOf name && (digits.length == 4 || digits.length == 5) && digits.all isHex then
    let n := Table.number digits
    if Table.contains ideographs n then some n else none
  else none

/-- The names of the lead letters of Hangul syllables. -/
def leads : List String :=
  ["G", "GG", "N", "D", "DD", "R", "M", "B", "BB", "S", "SS", "", "J", "JJ", "C", "K", "T", "P",
   "H"]

/-- The names of the vowels of Hangul syllables. -/
def vowels : List String :=
  ["A", "AE", "YA", "YAE", "EO", "E", "YEO", "YE", "O", "WA", "WAE", "OE", "YO", "U", "WEO", "WE",
   "WI", "YU", "EU", "YI", "I"]

/-- The names of the tail letters of Hangul syllables. -/
def tails : List String :=
  ["", "G", "GG", "GS", "N", "NJ", "NH", "D", "L", "LG", "LM", "LB", "LS", "LT", "LP", "LH", "M",
   "B", "BS", "S", "SS", "NG", "J", "C", "K", "T", "P", "H"]

/-- The position of the longest text in a list that some characters start with, and what
follows it. -/
def longest? (texts : List String) (cs : List Char) : Option (Nat × List Char) :=
  (texts.zipIdx.foldl (fun (best : Option (Nat × Nat)) (text, i) =>
    if text.toList.isPrefixOf cs && best.all (·.2 < text.length) then some (i, text.length)
    else best) none).map fun (i, size) => (i, cs.drop size)

/-- The Hangul syllable that has a name. -/
def syllable? (name : List Char) : Option Nat := do
  let start := "HANGUL SYLLABLE ".toList
  if start.isPrefixOf name then
    let (lead, rest) ← longest? leads (name.drop start.length)
    let (vowel, rest) ← longest? vowels rest
    let (tail, rest) ← longest? tails rest
    if rest.isEmpty then some (0xac00 + (lead * 21 + vowel) * 28 + tail) else none
  else none

/-- The first words of a name, as many as a digit says. -/
def sharedWords (mark : Char) (words : List (List Char)) : List (List Char) :=
  let n := if mark.isDigit then mark.toNat - '0'.toNat else mark.toNat - 'a'.toNat + 10
  words.take n

/-- The place of a name, given by its words, among the names of a row. -/
def placeIn? (wanted : List (List Char)) (before : List (List Char)) :
    List (List Char) → Option Nat
  | [] => none
  | [] :: names => (placeIn? wanted before names).map (· + 1)
  | (mark :: rest) :: names =>
    let words := sharedWords mark before ++
      if rest.isEmpty then [] else splitAt (· == ' ') rest
    if words = wanted then some 0 else (placeIn? wanted words names).map (· + 1)

/-- The character that has a name in the table. -/
def listed? (name : List Char) : Option Nat :=
  let wanted := splitAt (· == ' ') name
  rows.findSome? fun row =>
    match splitAt (· == ';') row.toList with
    | start :: names => (placeIn? wanted [] names).map (Table.number start + ·)
    | [] => none

/-- The code point of the character that has a name. -/
def find? (name : List Char) : Option Nat :=
  let name := name.map Char.toUpper
  listed? name <|> ideograph? name <|> syllable? name

end TypeSchema.Text.CharacterName
