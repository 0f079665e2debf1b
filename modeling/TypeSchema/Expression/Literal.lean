import TypeSchema.Expression.Basic
/-!
# Literal expressions

An expression is a literal if it spells a value without any name: plain values, signed and complex
numbers, and tuples, lists, sets and dictionaries of literals. The items of a set and the keys of
a dictionary have to be values that do not change.
-/

namespace TypeSchema.Expression

/-- Why an expression spells no value. -/
inductive LiteralFault where
  /-- An expression that is no literal. -/
  | malformed
  /-- A value of a class that changes, where one is needed that does not. -/
  | unhashable (className : String)
  deriving DecidableEq, Repr

/-- The text of a fault. -/
def LiteralFault.message : LiteralFault → String
  | malformed => "malformed node or string"
  | unhashable className => "unhashable type: '" ++ className ++ "'"

/-- Whether an expression is a number without a sign; a complex one only if it may be. -/
def isNumber (complex : Bool) : Expression → Bool
  | .constant (.int _) | .constant (.float _) => true
  | .constant (.complex _ _) => complex
  | _ => false

/-- Whether an expression is a number that may have a sign. -/
def isSignedNumber (complex : Bool) : Expression → Bool
  | .unary .plus e | .unary .minus e => isNumber complex e
  | e => isNumber complex e

mutual

/-- The name of the class that keeps a literal from being an item of a set, if it does. -/
def changing? : Expression → Option String
  | .group .list _ => some "list"
  | .group .set _ | .call _ _ => some "set"
  | .group .dict _ => some "dict"
  | .group .tuple items => changingItem? items
  | _ => none

/-- The name of the class that keeps the first of some literals from being items of a set. -/
def changingItem? : List Expression → Option String
  | [] => none
  | e :: es => changing? e <|> changingItem? es

end

mutual

/-- Why an expression is no literal, if it is none. -/
def literalFault? : Expression → Option LiteralFault
  | .constant _ => none
  | .group .set items =>
    literalFaults? items <|> (changingItem? items).map LiteralFault.unhashable
  | .group .dict items => entryFaults? items
  | .group _ items => literalFaults? items
  | .call (.name "set") [] => none
  | .unary .plus e | .unary .minus e => if isNumber true e then none else some .malformed
  | .binary op left (.constant (.complex _ _)) =>
    if (op = .add ∨ op = .subtract) ∧ isSignedNumber false left then none else some .malformed
  | _ => some .malformed

/-- Why some expressions are not all literals. -/
def literalFaults? : List Expression → Option LiteralFault
  | [] => none
  | e :: es => literalFault? e <|> literalFaults? es

/-- Why some entries are not all made of literals. -/
def entryFaults? : List Expression → Option LiteralFault
  | [] => none
  | .entry key value :: es =>
    literalFault? key <|> literalFault? value <|> (changing? key).map LiteralFault.unhashable <|>
      entryFaults? es
  | _ :: _ => some .malformed

end

end TypeSchema.Expression
