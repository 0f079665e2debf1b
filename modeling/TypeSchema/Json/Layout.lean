import TypeSchema.Json.Basic
import TypeSchema.Text.Hex
/-!
# Written JSON

A `Layout` fixes the two things in which written documents differ: whether members and
items stand on lines of their own, and whether characters outside ASCII are written as
themselves. Two layouts are in use.

* `Layout.compact`: one line without blanks, characters as themselves.
* `Layout.page`: two blanks per level, ASCII only. A character outside ASCII is written
  by its number in UTF-16, so one above U+FFFF takes two escapes.

Empty arrays and objects are `[]` and `{}` in every layout.
-/

namespace TypeSchema.Json

/-- How a document is laid out as text. -/
structure Layout where
  /-- Blanks per level when items stand on lines of their own. -/
  indent : Option Nat
  /-- Whether characters outside ASCII, and the delete character, are escaped. -/
  asciiOnly : Bool
  deriving Repr, DecidableEq

namespace Layout

/-- One line, no blanks, characters as themselves. -/
def compact : Layout := ⟨none, false⟩

/-- Two blanks per level, ASCII only. -/
def page : Layout := ⟨some 2, true⟩

/-- The escape of a UTF-16 unit by its number. -/
def unitEscape (n : Nat) : List Char :=
  '\\' :: 'u' :: Text.hexDigits 4 n

/-- One character inside a JSON string. -/
def escape (layout : Layout) (c : Char) : List Char :=
  let n := c.toNat
  if c = '"' then ['\\', '"']
  else if c = '\\' then ['\\', '\\']
  else if c = '\n' then ['\\', 'n']
  else if c = '\r' then ['\\', 'r']
  else if c = '\t' then ['\\', 't']
  else if n = 0x08 then ['\\', 'b']
  else if n = 0x0c then ['\\', 'f']
  else if n < 0x20 then unitEscape n
  else if !layout.asciiOnly || n < 0x7f then [c]
  else if n < 0x10000 then unitEscape n
  else unitEscape (0xd800 + (n - 0x10000) / 0x400) ++ unitEscape (0xdc00 + (n - 0x10000) % 0x400)

/-- A JSON string with its quotes. -/
def string (layout : Layout) (s : String) : List Char :=
  '"' :: s.toList.flatMap layout.escape ++ ['"']

/-- What separates the opening bracket, the items and the closing bracket at a level. -/
def lineBreak (layout : Layout) (level : Nat) : List Char :=
  match layout.indent with
  | none => []
  | some n => '\n' :: List.replicate (n * level) ' '

/-- What stands between the name of a member and its value. -/
def colon (layout : Layout) : List Char :=
  if layout.indent.isSome then [':', ' '] else [':']

mutual

/-- The characters of a document whose first line stands at `level`. -/
def write (layout : Layout) (level : Nat) : Json → List Char
  | .null => "null".toList
  | .bool true => "true".toList
  | .bool false => "false".toList
  | .int n => (toString n).toList
  | .string s => layout.string s
  | .array [] => ['[', ']']
  | .array (x :: xs) =>
    '[' :: (layout.lineBreak (level + 1) ++ (layout.write (level + 1) x ++
      (layout.writeItems (level + 1) xs ++ (layout.lineBreak level ++ [']']))))
  | .object [] => ['\x7b', '\x7d']
  | .object ((k, x) :: xs) =>
    '\x7b' :: (layout.lineBreak (level + 1) ++ (layout.string k ++ (layout.colon ++
      (layout.write (level + 1) x ++ (layout.writeMembers (level + 1) xs ++
        (layout.lineBreak level ++ ['\x7d']))))))

/-- The items after the first, each with the comma before it. -/
def writeItems (layout : Layout) (level : Nat) : List Json → List Char
  | [] => []
  | x :: xs =>
    ',' :: (layout.lineBreak level ++ (layout.write level x ++ layout.writeItems level xs))

/-- The members after the first, each with the comma before it. -/
def writeMembers (layout : Layout) (level : Nat) : List (String × Json) → List Char
  | [] => []
  | (k, x) :: xs =>
    ',' :: (layout.lineBreak level ++ (layout.string k ++ (layout.colon ++
      (layout.write level x ++ layout.writeMembers level xs))))

end

end Layout

/-- The document in one line, as documents are compared. -/
def toCompact (doc : Json) : String :=
  String.ofList (Layout.compact.write 0 doc)

/-- The document laid out on lines, as it is shown and saved. -/
def toPage (doc : Json) : String :=
  String.ofList (Layout.page.write 0 doc)

end TypeSchema.Json
