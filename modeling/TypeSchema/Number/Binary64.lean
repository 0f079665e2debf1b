/-!
# Binary fractions of double width

A `Binary64` is a word of 64 bits that stands for a sign, an exponent and a mantissa of 53 bits.
This module reads such numbers from decimal notation and writes them in the fewest digits that
read back as the same number; both are exact, by arithmetic on natural numbers.
-/

namespace TypeSchema

/-- A number of double width, by its bits. -/
structure Binary64 where
  word : UInt64
  deriving DecidableEq, Repr, Inhabited

namespace Binary64

/-- The number of values of a mantissa without its leading bit. -/
def mantissaLimit : Nat := 0x10000000000000

/-- The exponent field of infinities and of what is no number. -/
def topExponent : Nat := 2047

/-- Whether the sign is set. -/
def isNegative (x : Binary64) : Bool := 0x8000000000000000 ≤ x.word.toNat

/-- The exponent field. -/
def exponentField (x : Binary64) : Nat := x.word.toNat / mantissaLimit % 0x800

/-- The mantissa field. -/
def mantissaField (x : Binary64) : Nat := x.word.toNat % mantissaLimit

/-- Whether a number is zero, with whichever sign. -/
def isZero (x : Binary64) : Bool := x.exponentField == 0 && x.mantissaField == 0

/-- Whether a word stands for no number. -/
def isUndefined (x : Binary64) : Bool := x.exponentField == topExponent && x.mantissaField != 0

/-- The number with its sign changed. -/
def negate (x : Binary64) : Binary64 := ⟨x.word ^^^ ((1 : UInt64) <<< 63)⟩

/-- A fraction of two natural numbers, rounded to the nearest whole; of two that are equally
near, to the even one. -/
def roundedQuotient (numerator denominator : Nat) : Nat :=
  let quotient := numerator / denominator
  let rest := 2 * (numerator % denominator)
  if rest > denominator ∨ rest = denominator ∧ quotient % 2 = 1 then quotient + 1 else quotient

/-- A fraction of natural numbers times a power of a base that may be negative. -/
def scaled (base : Nat) (numerator denominator : Nat) (exponent : Int) : Nat × Nat :=
  match exponent with
  | .ofNat e => (numerator * Nat.pow base e, denominator)
  | .negSucc e => (numerator, denominator * Nat.pow base (e + 1))

/-- The word of a mantissa, which is at most `2 ^ 53`, at an exponent. -/
def encode (mantissa : Nat) (exponent : Int) : Nat :=
  if mantissa < mantissaLimit then mantissa
  else
    let (mantissa, exponent) :=
      if mantissa = 2 * mantissaLimit then (mantissaLimit, exponent + 1) else (mantissa, exponent)
    let field := (exponent + 1075).toNat
    if topExponent ≤ field then topExponent * mantissaLimit
    else field * mantissaLimit + (mantissa - mantissaLimit)

/-- The number nearest to a fraction of natural numbers; of two that are equally near, the one
with an even mantissa. -/
def ofFraction (numerator denominator : Nat) : Binary64 :=
  if numerator = 0 then ⟨0⟩
  else
    let start : Int := (Nat.log2 numerator : Int) - Nat.log2 denominator - 52
    let at' (exponent : Int) : Nat × Nat := scaled 2 numerator denominator (-exponent)
    let exponent :=
      let (n, d) := at' start
      if n < d * mantissaLimit then start - 1 else start
    let exponent := max exponent (-1074)
    let (n, d) := at' exponent
    ⟨(encode (roundedQuotient n d) exponent).toUInt64⟩

/-- The number nearest to `digits` times a power of ten. A power that no number reaches is
cut off before it is computed. -/
def ofDecimal (digits : Nat) (exponent : Int) : Binary64 :=
  let size : Int := (Nat.toDigits 10 digits).length
  if digits = 0 ∨ size + exponent < -400 then ⟨0⟩
  else if 400 < size + exponent then ⟨(topExponent * mantissaLimit).toUInt64⟩
  else
    let (n, d) := scaled 10 digits 1 exponent
    ofFraction n d

/-- The number nearest to a whole number. -/
def ofInt (n : Int) : Binary64 :=
  let x := ofFraction n.natAbs 1
  if n < 0 then x.negate else x

/-- The absolute value of a finite number as a fraction of natural numbers. -/
def magnitude (x : Binary64) : Nat × Nat :=
  if x.exponentField = 0 then scaled 2 x.mantissaField 1 (-1074)
  else scaled 2 (mantissaLimit + x.mantissaField) 1 ((x.exponentField : Int) - 1075)

/-- The power of ten of the first digit of a fraction that is not zero. -/
def leadingPower (numerator denominator : Nat) : Int :=
  let start : Int := ((Nat.toDigits 10 numerator).length : Int) - (Nat.toDigits 10 denominator).length
  let (n, d) := scaled 10 numerator denominator (-start)
  if n < d then start - 1 else start

/-- The decimals with `count` digits next to a fraction: the one below and the one above, each
with the power of ten of its last digit, the nearer one first. -/
def neighbours (count : Nat) (numerator denominator : Nat) : List (Nat × Int) :=
  let power := leadingPower numerator denominator - ((count : Int) - 1)
  let (n, d) := scaled 10 numerator denominator (-power)
  let below := n / d
  if 2 * (n % d) ≤ d then [(below, power), (below + 1, power)]
  else [(below + 1, power), (below, power)]

/-- The decimal with the fewest digits that reads back as a number, tried with `count` digits and
more, `tries` times at most. -/
def shortestFrom (x : Binary64) (numerator denominator : Nat) :
    (tries count : Nat) → Option (Nat × Int)
  | 0, _ => none
  | tries + 1, count =>
    let readsBack (decimal : Nat × Int) : Bool :=
      (ofDecimal decimal.1 decimal.2).word == x.word
    match (neighbours count numerator denominator).find? readsBack with
    | some decimal => some decimal
    | none => shortestFrom x numerator denominator tries (count + 1)

/-- The digits of a finite number that is neither negative nor zero, and the power of ten of the
first of them: the fewest digits that read back, and the nearest of those. -/
def shortest (x : Binary64) : List Char × Int :=
  let (n, d) := x.magnitude
  let (digits, power) := (shortestFrom x n d 17 1).getD (0, 0)
  let written := Nat.toDigits 10 digits
  let significant := (written.reverse.dropWhile (· == '0')).reverse
  (significant, power + (written.length - 1 : Nat))

/-- Digits without a sign in positional notation from `1e-4` to below `1e16`, and with an
exponent of at least two digits elsewhere. -/
def writeDigits (digits : List Char) (power : Int) : List Char :=
  if power < -4 ∨ 16 ≤ power then
    let exponent := (Nat.toDigits 10 power.natAbs)
    let padded := if exponent.length < 2 then '0' :: exponent else exponent
    let fraction := if digits.length ≤ 1 then [] else '.' :: digits.drop 1
    digits.take 1 ++ fraction ++ ['e', if power < 0 then '-' else '+'] ++ padded
  else if power < 0 then
    '0' :: '.' :: List.replicate (power.natAbs - 1) '0' ++ digits
  else
    let whole := power.toNat + 1
    let filled := digits ++ List.replicate (whole - digits.length) '0'
    filled.take whole ++ ['.'] ++
      if filled.length ≤ whole then ['0'] else filled.drop whole

/-- The text of a number. -/
def display (x : Binary64) : String :=
  let absolute : Binary64 := if x.isNegative then x.negate else x
  let sign := if x.isNegative then "-" else ""
  if x.exponentField = topExponent then
    if x.mantissaField = 0 then sign ++ "inf" else "nan"
  else if absolute.word = 0 then sign ++ "0.0"
  else
    let (digits, power) := absolute.shortest
    sign ++ String.ofList (writeDigits digits power)

/-- The text of a number that may leave out a fraction of nothing, as parts of complex numbers
are written. -/
def displayShort (x : Binary64) : String :=
  let text := x.display
  if text.endsWith ".0" then String.ofList (text.toList.take (text.length - 2)) else text

end Binary64

end TypeSchema
