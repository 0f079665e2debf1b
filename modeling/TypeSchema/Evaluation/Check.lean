import TypeSchema.Evaluation.Trace
import TypeSchema.Expression.Parser
/-!
# Values where types are wanted

The first steps of evaluation: reading the text of a reference, converting a value to the type that
it stands for, and refusing the values that may not be arguments of another type.
-/

namespace TypeSchema

/-- The expression that the text of a reference spells. After a star, the text stands for the first
item of what the star unpacks. -/
def readReference (text : String) : Except EvalError Expression :=
  let cs := text.toList
  if cs.isEmpty then .error .emptyReference
  else if cs.contains '\x00' then .error .nullCharacter
  else
    let unpacked := if cs.head? = some '*' then '(' :: cs ++ ",)[0]".toList else cs
    (Expression.parse unpacked).mapError fun _ => .notExpression text

/-- A reference to a text, which has to be an expression. -/
def reference (text : String) (module : Option String) (declares : Bool) : Eval TypeExpr :=
  match readReference text with
  | .ok _ => return .forwardRef text module declares
  | .error e => throw e

/-- The type that a value stands for where a type is wanted, or where a class declares what it has. -/
def typed (t : TypeExpr) (module : Option String) (declares : Bool) : Eval TypeExpr :=
  match t with
  | .constant .none => return .noneType
  | .constant (.string s) => reference s module declares
  | t => return t

/-- What a demand for a type asks for. -/
structure Demand where
  /-- What is said where the demand is not met. -/
  message : String
  /-- Whether an argument is wanted, which nothing final may be. -/
  isArgument : Bool
  /-- Whether a class declares an attribute there, which may be a variable of the class or final. -/
  declares : Bool
  /-- The module in which a reference is looked up, if it is fixed. -/
  module : Option String

/-- The demand for an argument. -/
def Demand.argument (message : String) : Demand := ⟨message, true, false, none⟩

/-- What is said where an argument of a generic type is no type. -/
def Demand.generic : Demand := .argument "Parameters to generic types must be types."

namespace Catalog

variable (cat : Catalog)

/-- What stands before the brackets of a subscription with a name of the `typing` module. -/
def typingHead? : TypeExpr → Option TypeExpr
  | .subscript (.form f) _ => some (.form f)
  | .subscript (.generic id) _ => some (.cls id [])
  | .annotated inner _ => some inner
  | _ => none

/-- Whether a value is one of the classes that make others generic. -/
def isGenericBase (t : TypeExpr) : Bool := t = .builtin .generic ∨ t = .builtin .protocol

/-- Whether something stands before brackets only where no type is wanted. -/
def isRefusedHead (demand : Demand) (t : TypeExpr) : Bool :=
  isGenericBase t || (t = .form .classVar && !demand.declares) ||
    (t = .form .final && !demand.declares && demand.isArgument)

/-- The type that a value stands for, which has to meet a demand. -/
def demanded (demand : Demand) (value : TypeExpr) : Eval TypeExpr := do
  let t ← typed value demand.module demand.declares
  if (typingHead? t).any (isRefusedHead demand) then Eval.refuse (.notArgument (cat.display t))
  else match t with
  | .form .keywordOnly => return t
  | .form f =>
    if f.isType || demand.declares && (f = .classVar || f = .final) then return t
    else Eval.refuse (.plainForm (cat.display t))
  | .group .tuple _ => Eval.refuse (.notDemanded demand.message (cat.displayShort t))
  | t =>
    if isGenericBase t then Eval.refuse (.plainForm (cat.display t)) else return t

/-- The types that some values stand for, each of which has to meet a demand. -/
def demandedAll (demand : Demand) (values : List TypeExpr) : Eval (List TypeExpr) :=
  values.mapM (cat.demanded demand)

end Catalog

end TypeSchema
