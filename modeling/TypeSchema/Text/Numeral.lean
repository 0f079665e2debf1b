import TypeSchema.Text.Words
/-!
# Numerals

Whole numbers written in base ten, with the digits of any script. `Numeral.integer?` reads blanks,
a sign and digits, between which single underscores may stand.
-/

namespace TypeSchema.Text.Numeral

/-- The digits for zero. Each starts a run of ten digits. -/
def zeros : List Nat :=
  [0x30, 0x660, 0x6f0, 0x7c0, 0x966, 0x9e6, 0xa66, 0xae6, 0xb66, 0xbe6, 0xc66, 0xce6, 0xd66,
   0xde6, 0xe50, 0xed0, 0xf20, 0x1040, 0x1090, 0x17e0, 0x1810, 0x1946, 0x19d0, 0x1a80, 0x1a90,
   0x1b50, 0x1bb0, 0x1c40, 0x1c50, 0xa620, 0xa8d0, 0xa900, 0xa9d0, 0xa9f0, 0xaa50, 0xabf0,
   0xff10, 0x104a0, 0x10d30, 0x11066, 0x110f0, 0x11136, 0x111d0, 0x112f0, 0x11450, 0x114d0,
   0x11650, 0x116c0, 0x11730, 0x118e0, 0x11950, 0x11c50, 0x11d50, 0x11da0, 0x16a60, 0x16ac0,
   0x16b50, 0x1d7ce, 0x1d7d8, 0x1d7e2, 0x1d7ec, 0x1d7f6, 0x1e140, 0x1e2f0, 0x1e950, 0x1fbf0]

/-- The value of a digit of any script. -/
def digit? (c : Char) : Option Nat :=
  zeros.findSome? fun start =>
    if start ≤ c.toNat ∧ c.toNat ≤ start + 9 then some (c.toNat - start) else none

/-- The number that digits spell after the digits of `n`; `open'` says whether a digit has to come
next. -/
def digitsAfter? (n : Nat) (open' : Bool) : List Char → Option Nat
  | [] => if open' then none else some n
  | '_' :: cs => if open' then none else digitsAfter? n true cs
  | c :: cs =>
    match digit? c with
    | some d => digitsAfter? (10 * n + d) false cs
    | none => none

/-- The number that digits without a sign spell. -/
def natural? (cs : List Char) : Option Nat := digitsAfter? 0 true cs

/-- Some characters without the blanks around them. -/
def trimmed (cs : List Char) : List Char :=
  ((cs.dropWhile isBlank).reverse.dropWhile isBlank).reverse

/-- The whole number that some characters spell. -/
def integer? (cs : List Char) : Option Int :=
  match trimmed cs with
  | '-' :: ds => (natural? ds).map fun n => -(n : Int)
  | '+' :: ds => (natural? ds).map fun n => (n : Int)
  | ds => (natural? ds).map fun n => (n : Int)

end TypeSchema.Text.Numeral
