import TypeSchema.Expression.Basic
/-!
# Arithmetic of plain values

Sums, products, quotients and bitwise combinations of the numbers among plain values. Truth values
count as whole numbers. Numbers of double width are computed with exactly, as fractions, and
rounded once.
-/

namespace TypeSchema

/-- A division by nothing. -/
inductive Division where
  | whole | remainder | fraction | floatFraction | floatWhole | floatRemainder
  | zeroPower
  deriving DecidableEq, Repr

/-- Why an operation on numbers has no result. -/
inductive ArithmeticFault where
  | division (division : Division)
  | negativeShift
  deriving DecidableEq, Repr

/-- A number. -/
inductive Number where
  | whole (n : Int)
  | double (x : Binary64)
  | complex (real imaginary : Binary64)
  deriving DecidableEq, Repr

namespace Number

/-- The value of a finite number of double width. -/
def ofDouble (x : Binary64) : Rat :=
  let (numerator, denominator) := x.magnitude
  let value := mkRat numerator denominator
  if x.isNegative then -value else value

/-- The number of double width that is nearest to a fraction. -/
def toDouble (q : Rat) : Binary64 :=
  let x := Binary64.ofFraction q.num.natAbs q.den
  if q.num < 0 then x.negate else x

/-- The value of a number that is not complex. -/
def toRat : Number → Rat
  | whole n => n
  | double x | complex x _ => ofDouble x

/-- The real and the imaginary part of a number. -/
def parts : Number → Rat × Rat
  | complex x y => (ofDouble x, ofDouble y)
  | n => (n.toRat, 0)

/-- The whole number whose bits are those of another, each turned. -/
def complement (n : Int) : Int := -n - 1

/-- The bits that some of two whole numbers has. -/
def lor (m n : Int) : Int :=
  let p (k : Int) := k.toNat
  -- A negative number stands for its complement, which is natural, with all bits turned.
  match decide (m < 0), decide (n < 0) with
  | false, false => (p m ||| p n : Nat)
  | true, false => complement (p (complement m) - (p (complement m) &&& p n) : Nat)
  | false, true => complement (p (complement n) - (p (complement n) &&& p m) : Nat)
  | true, true => complement (p (complement m) &&& p (complement n) : Nat)

/-- The bits that both of two whole numbers have. -/
def land (m n : Int) : Int := complement (lor (complement m) (complement n))

/-- The bits that one of two whole numbers has. -/
def lxor (m n : Int) : Int := land (lor m n) (complement (land m n))

/-- A power of a number to a number. -/
def power (base exponent : Number) : Except ArithmeticFault Number :=
  match base, exponent with
  | whole m, whole n =>
    if 0 ≤ n then .ok (.whole (Int.pow m n.toNat))
    else if m = 0 then .error (.division .zeroPower)
    else .ok (.double (toDouble ((m : Rat) ^ n)))
  | m, n =>
    let float (k : Number) : Float := match k with
      | .double x => Float.ofBits x.word
      | k => Float.ofBits (toDouble k.toRat).word
    if m.toRat = 0 ∧ n.toRat < 0 then .error (.division .zeroPower)
    else .ok (.double ⟨((float m).pow (float n)).toBits⟩)

/-- An operation on whole numbers that only they have. -/
def bitwise? (op : BinaryOperator) (m n : Int) : Option (Except ArithmeticFault Int) :=
  match op with
  | .bitOr => some (.ok (lor m n))
  | .bitAnd => some (.ok (land m n))
  | .bitXor => some (.ok (lxor m n))
  | .shiftLeft =>
    some (if n < 0 then .error .negativeShift else .ok (m * Nat.pow 2 n.toNat))
  | .shiftRight =>
    some (if n < 0 then .error .negativeShift else .ok (m.fdiv (Nat.pow 2 n.toNat)))
  | _ => none

/-- An operation on two whole numbers. -/
def ofWholes (op : BinaryOperator) (m n : Int) : Option (Except ArithmeticFault Number) :=
  let checked (division : Division) (result : Number) : Option (Except ArithmeticFault Number) :=
    some (if n = 0 then .error (.division division) else .ok result)
  match op with
  | .add => some (.ok (.whole (m + n)))
  | .subtract => some (.ok (.whole (m - n)))
  | .multiply => some (.ok (.whole (m * n)))
  | .divide => checked .fraction (.double (toDouble ((m : Rat) / n)))
  | .floorDivide => checked .whole (.whole (m.fdiv n))
  | .remainder => checked .remainder (.whole (m.fmod n))
  | .power => some (power (.whole m) (.whole n))
  | op => (bitwise? op m n).map fun result => result.map .whole

/-- An operation on two numbers of which one has double width. -/
def ofDoubles (op : BinaryOperator) (x y : Number) : Option (Except ArithmeticFault Number) :=
  let p := x.toRat
  let q := y.toRat
  let checked (division : Division) (result : Rat) : Option (Except ArithmeticFault Number) :=
    some (if q = 0 then .error (.division division) else .ok (.double (toDouble result)))
  match op with
  | .add => some (.ok (.double (toDouble (p + q))))
  | .subtract => some (.ok (.double (toDouble (p - q))))
  | .multiply => some (.ok (.double (toDouble (p * q))))
  | .divide => checked .floatFraction (p / q)
  | .floorDivide => checked .floatWhole ((p / q).floor)
  | .remainder => checked .floatRemainder (p - q * (p / q).floor)
  | .power => some (power x y)
  | _ => none

/-- An operation on two numbers of which one is complex. -/
def ofComplexes (op : BinaryOperator) (x y : Number) : Option (Except ArithmeticFault Number) :=
  let (a, b) := x.parts
  let (c, d) := y.parts
  let made (re im : Rat) : Option (Except ArithmeticFault Number) :=
    some (.ok (.complex (toDouble re) (toDouble im)))
  match op with
  | .add => made (a + c) (b + d)
  | .subtract => made (a - c) (b - d)
  | .multiply => made (a * c - b * d) (a * d + b * c)
  | _ => none

/-- An operation on two numbers, if there is one. -/
def combine? (op : BinaryOperator) (x y : Number) : Option (Except ArithmeticFault Number) :=
  match x, y with
  | .whole m, .whole n => ofWholes op m n
  | .complex _ _, _ | _, .complex _ _ => ofComplexes op x y
  | x, y => ofDoubles op x y

/-- A number with its sign changed. -/
def negate : Number → Number
  | whole n => whole (-n)
  | double x => double x.negate
  | complex x y => complex x.negate y.negate

/-- The order of two numbers that are not complex. -/
def compare? (x y : Number) : Option Ordering :=
  match x, y with
  | .complex _ _, _ | _, .complex _ _ => none
  | x, y =>
    let p := x.toRat
    let q := y.toRat
    some (if p < q then .lt else if p = q then .eq else .gt)

end Number

namespace Constant

/-- The number that a plain value is. -/
def number? : Constant → Option Number
  | .bool b => some (.whole (if b then 1 else 0))
  | .int n => some (.whole n)
  | .float x => some (.double x)
  | .complex x y => some (.complex x y)
  | _ => Option.none

/-- A number as a plain value. -/
def ofNumber : Number → Constant
  | .whole n => .int n
  | .double x => .float x
  | .complex x y => .complex x y

end Constant

end TypeSchema
