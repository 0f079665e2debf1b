import TypeSchema.Number.Binary64
import TypeSchema.Text.Hex
/-!
# Layouts of numbers and texts

A `Layout` says how a value is written in a place of some width: what fills the place and on which
side, how many digits are written, and in what style. It is read from the text that
`Layout.read` describes:

    [[fill]align][sign][z][#][0][width][grouping][.precision][style]

Fractions are written exactly and rounded once, to the nearest digit and to an even one between two.
-/

namespace TypeSchema.Number

/-- How a value is written. -/
structure Layout where
  fill : Char
  align : Option Char
  sign : Char
  /-- Whether a number in another base is marked. -/
  isMarked : Bool
  width : Nat
  grouping : Option Char
  precision : Option Nat
  style : Option Char
  deriving DecidableEq, Repr, Inhabited

namespace Layout

/-- The number that digits spell, and what follows them. -/
def natural? (cs : List Char) : Option Nat × List Char :=
  let ds := cs.takeWhile Char.isDigit
  (if ds.isEmpty then none else some (ds.foldl (fun n d => 10 * n + (d.toNat - '0'.toNat)) 0),
    cs.drop ds.length)

/-- Whether a sign says on which side of a place a value stands. -/
def isAlign (c : Char) : Bool := "<>=^".toList.contains c

/-- The alignment at the start of a layout, and what follows it. -/
def alignment : List Char → (Option (Char × Char)) × List Char
  | f :: a :: rest =>
    if isAlign a then (some (f, a), rest)
    else if isAlign f then (some (' ', f), a :: rest)
    else (none, f :: a :: rest)
  | [a] => if isAlign a then (some (' ', a), []) else (none, [a])
  | [] => (none, [])

/-- The layout that a text describes, if it describes one. -/
def read (text : List Char) : Option Layout :=
  let (aligned, cs) := alignment text
  let (sign, cs) := match cs with
    | '+' :: rest => ('+', rest)
    | '-' :: rest => ('-', rest)
    | ' ' :: rest => (' ', rest)
    | rest => ('-', rest)
  let cs := match cs with
    | 'z' :: rest => rest
    | rest => rest
  let (isMarked, cs) := match cs with
    | '#' :: rest => (true, rest)
    | rest => (false, rest)
  let (isPadded, cs) := match cs with
    -- A zero before the width fills the place, unless an alignment is written.
    | '0' :: rest => (aligned.isNone, rest)
    | rest => (false, rest)
  let (width, cs) := natural? cs
  let (grouping, cs) := match cs with
    | ',' :: rest => (some ',', rest)
    | '_' :: rest => (some '_', rest)
    | rest => (none, rest)
  let precise : Option (Option Nat × List Char) := match cs with
    | '.' :: rest =>
      match natural? rest with
      | (some n, rest) => some (some n, rest)
      | (none, _) => none
    | rest => some (none, rest)
  match precise with
  | none => none
  | some (precision, cs) =>
    let layout (style : Option Char) : Layout :=
      { fill := if isPadded then '0' else (aligned.map Prod.fst).getD ' '
        align := if isPadded then some '=' else aligned.map Prod.snd
        sign, isMarked, width := width.getD 0, grouping, precision, style }
    match cs with
    | [] => some (layout none)
    | [c] => some (layout (some c))
    | _ => none

/-- A text in a place, on one of its sides or in its middle. -/
def placed (l : Layout) (align : Char) (cs : List Char) : List Char :=
  let missing := l.width - cs.length
  let left := match align with
    | '<' => 0
    | '^' => missing / 2
    | _ => missing
  List.replicate left l.fill ++ cs ++ List.replicate (missing - left) l.fill

/-- A text as a layout has it. -/
def ofText (l : Layout) (cs : List Char) : List Char :=
  let shown := match l.precision with
    | some n => cs.take n
    | none => cs
  l.placed (l.align.getD '<') shown

/-- Digits in groups of some size. -/
def grouped (separator : Char) (size : Nat) (ds : List Char) : List Char :=
  let rec go : Nat → List Char → List Char
    | _, [] => []
    | 0, d :: ds => separator :: d :: go (size - 1) ds
    | n + 1, d :: ds => d :: go n ds
  (go size ds.reverse).reverse

/-- A number in a place: a sign, a mark, digits that may stand in groups, and what follows them. -/
def ofNumber (l : Layout) (isNegative : Bool) (mark digits rest : List Char) (groupSize : Nat) :
    List Char :=
  let sign := if isNegative then ['-'] else if l.sign = '-' then [] else [l.sign]
  let ds := match l.grouping with
    | some separator => grouped separator groupSize digits
    | none => digits
  match l.align.getD '>' with
  | '=' =>
    let missing := l.width - (sign.length + mark.length + ds.length + rest.length)
    sign ++ mark ++ List.replicate missing l.fill ++ ds ++ rest
  | align => l.placed align (sign ++ mark ++ ds ++ rest)

/-- The digits of a whole number in a base. -/
def digitsIn (base n : Nat) : List Char := Nat.toDigits base n

/-- Digits with at least one before the last `count`. -/
def pointed (count : Nat) (n : Nat) : List Char × List Char :=
  let ds := digitsIn 10 n
  let ds := List.replicate (count + 1 - ds.length) '0' ++ ds
  let whole := ds.take (ds.length - count)
  let part := ds.drop (ds.length - count)
  (whole, if part.isEmpty then [] else '.' :: part)

/-- A fraction with a fixed number of digits after the point. -/
def fixed (numerator denominator precision : Nat) : List Char × List Char :=
  pointed precision (Binary64.roundedQuotient (numerator * Nat.pow 10 precision) denominator)

/-- The power of ten at which a fraction begins, and its first digits, one more than `precision`. -/
def leading (numerator denominator precision : Nat) : Int × Nat :=
  if numerator = 0 then (0, 0)
  else
    -- The numbers of digits give the power, or one too many.
    let guess : Int := (digitsIn 10 numerator).length - (digitsIn 10 denominator).length
    let at' (e : Int) : Nat × Nat :=
      let shift : Int := precision - e
      (numerator * Nat.pow 10 shift.toNat, denominator * Nat.pow 10 (-shift).toNat)
    let isBelow (e : Int) : Bool :=
      let (a, b) := at' e
      a < b * Nat.pow 10 precision
    let e := if isBelow guess then guess - 1 else guess
    let (a, b) := at' e
    let n := Binary64.roundedQuotient a b
    if Nat.pow 10 (precision + 1) ≤ n then (e + 1, n / 10) else (e, n)

/-- The text of a power of ten. -/
def powerText (mark : Char) (e : Int) : List Char :=
  let ds := digitsIn 10 e.natAbs
  mark :: (if e < 0 then '-' else '+') :: (List.replicate (2 - ds.length) '0' ++ ds)

/-- A fraction in powers of ten. -/
def scientific (mark : Char) (numerator denominator precision : Nat) : List Char × List Char :=
  let (e, n) := leading numerator denominator precision
  let (whole, part) := pointed precision n
  (whole, part ++ powerText mark e)

/-- What follows the point without zeros at its end. -/
def withoutZeros (part : List Char) : List Char :=
  let kept := (part.reverse.dropWhile (· == '0')).reverse
  if kept = ['.'] then [] else kept

/-- A fraction with some digits that count, in powers of ten where it is very large or small. -/
def general (mark : Char) (isMarked : Bool) (numerator denominator precision : Nat) :
    List Char × List Char :=
  let p := max precision 1
  let (e, n) := leading numerator denominator (p - 1)
  let trim (part : List Char) := if isMarked then part else withoutZeros part
  if -4 ≤ e ∧ e < p then
    let (whole, part) := fixed numerator denominator ((p : Int) - 1 - e).toNat
    (whole, trim part)
  else
    let (whole, part) := pointed (p - 1) n
    (whole, trim part ++ powerText mark e)

end Layout

end TypeSchema.Number
