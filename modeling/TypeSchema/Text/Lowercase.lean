import TypeSchema.Text.Uppercase
/-!
# Lower case

The lower case of letters. Letters whose lower case is known by its upper case alone have the letter
that gives it back.
-/

namespace TypeSchema.Text.Lowercase

/-- The lower case of a letter: the letter itself, or the one of the next places whose upper case it is. -/
def ofChar (c : Char) : Char :=
  if c.toNat < 0x80 then c.toLower
  else
    let near := [32, 1, 80, 48, 37, 38, 63, 64].map fun step => Char.ofNat (c.toNat + step)
    (near.find? fun d => d ≠ c && Uppercase.ofChar d = [c]).getD c

/-- A text in lower case. -/
def ofText (s : String) : String := String.ofList (s.toList.map ofChar)

/-- Whether a letter has another upper case. -/
def isLower (c : Char) : Bool := Uppercase.ofChar c ≠ [c]

/-- Whether a letter has another lower case. -/
def isUpper (c : Char) : Bool := ofChar c ≠ c

end TypeSchema.Text.Lowercase
