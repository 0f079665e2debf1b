import TypeSchema.Evaluation.Check
/-!
# Type variables of type expressions

The type variables that an expression still has are its *parameters*: brackets after the expression
give them their arguments. A class stands for itself and contributes none, even where it is
generic.
-/

namespace TypeSchema

/-- The values of some type variables. -/
abbrev Assignment := List (TypeVar × TypeExpr)

namespace TypeExpr

mutual

/-- The type variables in a type expression, as often as they appear. -/
def typeVars : TypeExpr → List TypeVar
  | .typeVar v => [v]
  | .subscript _ args => typeVarsOfAll args
  | .union _ members => typeVarsOfAll members
  | .literal values => typeVarsOfAll values
  | .annotated inner _ => typeVars inner
  | .unpacked inner => typeVars inner
  | _ => []

/-- The type variables in some type expressions. -/
def typeVarsOfAll : List TypeExpr → List TypeVar
  | [] => []
  | t :: ts => typeVars t ++ typeVarsOfAll ts

end

/-- The type variables that brackets after some expressions give a value, in order. -/
def parametersOf (ts : List TypeExpr) : List TypeVar := (typeVarsOfAll ts).eraseDups

mutual

/-- A type expression with its type variables replaced. -/
def assign (vars : Assignment) : TypeExpr → TypeExpr
  | .typeVar v => (vars.lookup v).getD (.typeVar v)
  | .subscript head args => .subscript head (assignAll vars args)
  | .union style members => unionOf style (assignAll vars members)
  | .literal values => .literal (assignAll vars values)
  | .annotated inner metadata => annotate (assign vars inner) metadata
  | .unpacked inner => .unpacked (assign vars inner)
  | t => t

/-- Some type expressions with their type variables replaced. -/
def assignAll (vars : Assignment) : List TypeExpr → List TypeExpr
  | [] => []
  | t :: ts => assign vars t :: assignAll vars ts

end

/-- Whether the brackets after an expression convert what stands in them at once. -/
def convertsArguments : TypeExpr → Bool
  | .subscript (.direct _) _ | .subscript (.flat _) _ | .unpacked _ | .union .bars _ => false
  | _ => true

/-- Whether a value is the contents of another generic type. -/
def isUnpacked : TypeExpr → Bool
  | .unpacked _ | .subscript (.form .unpack) _ => true
  | _ => false

/-- The arguments that stand between brackets. -/
def keys : TypeExpr → List TypeExpr
  | .group .tuple items => items
  | t => [t]

end TypeExpr

namespace Catalog

variable (cat : Catalog)

/-- Check that a number of arguments is the expected one. -/
def checkCount (shown : String) (actual expected : Nat) (few : String) : Eval Unit :=
  if actual = expected then return
  else Eval.refuse (.argumentCount shown actual (expected < actual)
    ((if expected < actual then "" else few) ++ toString expected))

/-- The value of a type variable. -/
def argumentValue (t : TypeExpr) : Eval TypeExpr := do
  let t ← cat.demanded .generic t
  if t.isUnpacked then Eval.refuse (.notArgument (cat.display t)) else return t

/-- What `t[key]` means where `t` has arguments already, and they were not written before. -/
def subscriptNewly (t key : TypeExpr) : Eval TypeExpr := do
  if (typingHead? t).any isGenericBase then Eval.refuse (.subscriptedTwice (cat.display t))
  let params := TypeExpr.parametersOf [t]
  if params.isEmpty then Eval.refuse (.notGeneric (cat.display t))
  let args ← if t.convertsArguments then key.keys.mapM fun k => typed k none false else pure key.keys
  checkCount (cat.display t) args.length params.length ""
  return t.assign (params.zip (← args.mapM cat.argumentValue))

/-- What `t[key]` means where `t` has arguments already. -/
def subscriptAgain (t key : TypeExpr) : Eval TypeExpr :=
  if t.convertsArguments then Eval.remembering t key TypeExpr.same (cat.subscriptNewly t key)
  else cat.subscriptNewly t key

end Catalog

end TypeSchema
