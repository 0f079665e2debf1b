import TypeSchema.Text.Hex
import TypeSchema.Text.Printable
/-!
# Quoted text

How a text appears inside a message: between quotes, with the characters escaped that the
quotes or the line could not hold.

* The quote is `'`, and `"` exactly when the text holds a `'` and no `"`.
* The quote in use and the backslash are preceded by a backslash; line feed, carriage
  return and tab have their letters; any other character that is not printable is written
  by its number in two, four or eight hexadecimal digits.
-/

namespace TypeSchema.Text.Quoted

/-- The quote that a text is written between. -/
def quoteFor (cs : List Char) : Char :=
  if cs.contains '\'' && !cs.contains '"' then '"' else '\''

/-- One character as it is written between quotes `quote`. -/
def escape (quote c : Char) : List Char :=
  if c = quote ∨ c = '\\' then ['\\', c]
  else if c = '\n' then ['\\', 'n']
  else if c = '\r' then ['\\', 'r']
  else if c = '\t' then ['\\', 't']
  else if isPrintable c then [c]
  else if c.toNat < 0x100 then '\\' :: 'x' :: hexDigits 2 c.toNat
  else if c.toNat < 0x10000 then '\\' :: 'u' :: hexDigits 4 c.toNat
  else '\\' :: 'U' :: hexDigits 8 c.toNat

/-- The quoted form of a list of characters. -/
def encode (cs : List Char) : List Char :=
  let quote := quoteFor cs
  quote :: cs.flatMap (escape quote) ++ [quote]

end TypeSchema.Text.Quoted

/-- The quoted form of a text. -/
def TypeSchema.Text.quoted (s : String) : String :=
  String.ofList (Quoted.encode s.toList)
