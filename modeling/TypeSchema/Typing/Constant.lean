import TypeSchema.Number.Decimal
import TypeSchema.Text.Quoted
/-!
# Plain values

A `Constant` is a value that has no parts: the absent value, the three dots, truth values, numbers
and texts. All but decimal numbers can be spelled without any name.

`Constant.display` is how it appears in messages, and `Constant.same` the equality that a program
sees, under which truth values count as numbers.
-/

namespace TypeSchema

/-- A plain value. -/
inductive Constant where
  | none
  | ellipsis
  /-- What an operation answers that does not apply. -/
  | notImplemented
  | bool (value : Bool)
  | int (value : Int)
  | float (value : Binary64)
  | complex (real imaginary : Binary64)
  | decimal (value : Decimal)
  | string (value : String)
  | bytes (value : List UInt8)
  deriving DecidableEq, Repr, Inhabited

namespace Constant

/-- One byte as it is written between quotes `quote`. -/
def escapeByte (quote : Char) (b : UInt8) : List Char :=
  let c := Char.ofNat b.toNat
  if c = quote ∨ c = '\\' then ['\\', c]
  else if c = '\n' then ['\\', 'n']
  else if c = '\r' then ['\\', 'r']
  else if c = '\t' then ['\\', 't']
  else if 0x20 ≤ b ∧ b < 0x7f then [c]
  else '\\' :: 'x' :: Text.hexDigits 2 b.toNat

/-- The quoted form of some bytes. -/
def displayBytes (bytes : List UInt8) : String :=
  let quote := Text.Quoted.quoteFor (bytes.map fun b => Char.ofNat b.toNat)
  String.ofList ('b' :: quote :: bytes.flatMap (escapeByte quote) ++ [quote])

/-- The text of a complex number. -/
def displayComplex (real imaginary : Binary64) : String :=
  if real.word = 0 then imaginary.displayShort ++ "j"
  else
    let sign := if imaginary.isNegative then "" else "+"
    "(" ++ real.displayShort ++ sign ++ imaginary.displayShort ++ "j)"

/-- A plain value on its own. -/
def display : Constant → String
  | .none => "None"
  | .ellipsis => "Ellipsis"
  | .notImplemented => "NotImplemented"
  | .bool true => "True"
  | .bool false => "False"
  | .int n => toString n
  | .float x => x.display
  | .complex re im => displayComplex re im
  | .decimal d => "Decimal(" ++ Text.quoted d.display ++ ")"
  | .string s => Text.quoted s
  | .bytes bs => displayBytes bs

/-- The number that a plain value is, if it is one and not complex. -/
def asInt? : Constant → Option Int
  | .bool b => some (if b then 1 else 0)
  | .int n => some n
  | _ => Option.none

/-- The value that stands for all that are equal to a plain value, unless that is an undefined
number: of real numbers a decimal one, of binary fractions the one whose zeros have no sign. -/
def reduced? : Constant → Option Constant
  | .bool b => (Decimal.ofInt (if b then 1 else 0)).reduced?.map .decimal
  | .int n => (Decimal.ofInt n).reduced?.map .decimal
  | .float x => (Decimal.ofBinary x).reduced?.map .decimal
  | .decimal d => d.reduced?.map .decimal
  | .complex x y =>
    if x.isUndefined ∨ y.isUndefined then Option.none
    else if y.isZero then (Decimal.ofBinary x).reduced?.map .decimal
    else some (.complex (if x.isZero then ⟨0⟩ else x) y)
  | c => some c

/-- Equality of plain values as a program sees it: numbers compare by value, and what is undefined
equals nothing. -/
def same (a b : Constant) : Bool := a.reduced?.isSome && a.reduced? == b.reduced?

/-- What texts call the class of a plain value. -/
def className : Constant → String
  | .none => "NoneType"
  | .ellipsis => "ellipsis"
  | .notImplemented => "NotImplementedType"
  | .bool _ => "bool"
  | .int _ => "int"
  | .float _ => "float"
  | .complex _ _ => "complex"
  | .decimal _ => "decimal.Decimal"
  | .string _ => "str"
  | .bytes _ => "bytes"

/-- Whether a plain value counts as true. -/
def isTrue : Constant → Bool
  | .none => false
  | .ellipsis | .notImplemented => true
  | .bool b => b
  | .int n => n != 0
  | .float x => !x.isZero
  | .complex x y => !(x.isZero && y.isZero)
  | .decimal d => !d.isZero
  | .string s => s != ""
  | .bytes bs => !bs.isEmpty

end Constant

end TypeSchema
