import TypeSchema.Number.Notation
/-!
# Decimal numbers

A `Decimal` keeps the digits that it was written with: `1.10` and `1.1` are two numbers with one
value. Besides finite numbers there are two infinities and numbers that are undefined, some of which
signal when they are used.
-/

namespace TypeSchema

/-- A decimal number. -/
inductive Decimal where
  /-- `digits` times a power of ten. -/
  | finite (isNegative : Bool) (digits : Nat) (exponent : Int)
  | infinite (isNegative : Bool)
  /-- A number that is undefined, with digits that say why. -/
  | undefined (isNegative signals : Bool) (payload : List Char)
  deriving DecidableEq, Repr, Inhabited

namespace Decimal

open Number.Notation

/-- A whole number. -/
def ofInt (n : Int) : Decimal := .finite (n < 0) n.natAbs 0

/-- The number that a binary fraction is, exactly. -/
def ofBinary (x : Binary64) : Decimal :=
  if x.exponentField = Binary64.topExponent then
    if x.mantissaField = 0 then .infinite x.isNegative else .undefined x.isNegative false []
  else
    -- The denominator is a power of two, and `1 / 2 = 5 * 10 ^ (-1)`.
    let (numerator, denominator) := x.magnitude
    let places := Nat.log2 denominator
    .finite x.isNegative (numerator * Nat.pow 5 places) (-places)

/-- Whether a number may not even be compared. -/
def isSignaling : Decimal → Bool
  | .undefined _ signals _ => signals
  | _ => false

/-- Whether a number is zero, with whichever sign. -/
def isZero : Decimal → Bool
  | .finite _ digits _ => digits == 0
  | _ => false

/-- The number that stands for all of one value: its last digit is not zero, and zero has no sign.
An undefined number has no value. -/
def reduced? : Decimal → Option Decimal
  | .finite isNegative digits exponent =>
    if digits = 0 then some (.finite false 0 0)
    else
      let zeros := ((Nat.toDigits 10 digits).reverse.takeWhile (· == '0')).length
      some (.finite isNegative (digits / Nat.pow 10 zeros) (exponent + zeros))
  | .infinite isNegative => some (.infinite isNegative)
  | .undefined _ _ _ => none

/-- The text of a number: with an exponent where its last digit stands before the point or its first
one far behind it. -/
def display : Decimal → String
  | .finite isNegative digits exponent =>
    let sign := if isNegative then "-" else ""
    let ds := Nat.toDigits 10 digits
    let size : Int := ds.length
    let left := exponent + size
    let point : Int := if exponent ≤ 0 ∧ -6 < left then left else 1
    let written :=
      if point ≤ 0 then '0' :: '.' :: List.replicate point.natAbs '0' ++ ds
      else if size ≤ point then ds ++ List.replicate (point - size).toNat '0'
      else ds.take point.toNat ++ '.' :: ds.drop point.toNat
    let power := left - point
    let suffix := if power = 0 then "" else (if 0 < power then "E+" else "E") ++ toString power
    sign ++ String.ofList written ++ suffix
  | .infinite isNegative => if isNegative then "-Infinity" else "Infinity"
  | .undefined isNegative signals payload =>
    (if isNegative then "-" else "") ++ (if signals then "sNaN" else "NaN") ++
      String.ofList (payload.dropWhile (· == '0'))

/-- The number that a text without a sign spells. -/
def unsigned? (isNegative : Bool) (cs : List Char) : Option Decimal :=
  match afterWord? "infinity" cs <|> afterWord? "inf" cs with
  | some rest => if rest = [] then some (.infinite isNegative) else none
  | none =>
    match afterWord? "snan" cs, afterWord? "nan" cs with
    | some rest, _ =>
      if rest.all Char.isDigit then some (.undefined isNegative true rest) else none
    | none, some rest =>
      if rest.all Char.isDigit then some (.undefined isNegative false rest) else none
    | none, none =>
      let whole := cs.takeWhile Char.isDigit
      let (fraction, rest) := match cs.dropWhile Char.isDigit with
        | '.' :: rest => (rest.takeWhile Char.isDigit, rest.dropWhile Char.isDigit)
        | rest => ([], rest)
      let (power, rest) := exponent rest
      if rest = [] ∧ (whole ≠ [] ∨ fraction ≠ []) then
        some (.finite isNegative (valueOf (whole ++ fraction)) (power - fraction.length))
      else none

/-- The number that a text spells. Underscores may stand anywhere. -/
def ofText? (cs : List Char) : Option Decimal :=
  let (isNegative, rest) := signed ((plainForm cs).filter (· ≠ '_'))
  unsigned? isNegative rest

end Decimal

end TypeSchema
