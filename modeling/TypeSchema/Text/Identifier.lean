import TypeSchema.Text.Identifier.Data
import TypeSchema.Text.Table
/-!
# Names in written expressions

Which texts are names: a letter or an underscore, followed by letters, digits, underscores and
combining marks, in the sense of Unicode's default identifiers.
-/

namespace TypeSchema.Text.Identifier

/-- A character that may start a name. -/
def isStart (c : Char) : Bool :=
  if c.toNat < 0x80 then c.isAlpha || c == '_' else Table.contains startRanges c.toNat

/-- A character that may continue a name. -/
def isPart (c : Char) : Bool :=
  isStart c || c.isDigit || (0x80 ≤ c.toNat && Table.contains partRanges c.toNat)

/-- Whether some characters are a name. -/
def isValid : List Char → Bool
  | [] => false
  | c :: cs => isStart c && cs.all isPart

/-- The first character of a text that keeps it from being a name. -/
def firstInvalid? : List Char → Option Char
  | [] => none
  | c :: cs => if isStart c then cs.find? (!isPart ·) else some c

end TypeSchema.Text.Identifier
