import TypeSchema.Evaluation.Subscript
/-!
# Generic models at arguments

A generic model at arguments is a class of its own, which has the fields of the model with its type
variables replaced. Its arguments are kept as they are written.

`Catalog.replace` replaces type variables in the types of such a class. It builds every expression
that changes anew by writing its brackets again, so unions are normalised again, and a
generic model that is mentioned without arguments is a model at its own variables.
-/

namespace TypeSchema

namespace Catalog

variable (cat : Catalog)

mutual

/-- The type variables that models and other types in an expression leave. -/
def openVars : TypeExpr → List TypeVar
  | .typeVar v => [v]
  | .cls id [] => if cat.isModel ⟨id, []⟩ then (cat.info id).params else []
  | .cls _ (t :: ts) => openVars t ++ openVarsOfAll ts
  | .subscript _ args => openVarsOfAll args
  | .union _ members => openVarsOfAll members
  | .annotated inner metadata => openVars inner ++ openVarsOfAll metadata
  | .unpacked inner => openVars inner
  | .group .list items => openVarsOfAll items
  | _ => []

/-- The type variables that some expressions leave. -/
def openVarsOfAll : List TypeExpr → List TypeVar
  | [] => []
  | t :: ts => openVars t ++ openVarsOfAll ts

end

/-- The type variables of a model, or those that the arguments of one leave. -/
def modelParams (c : ClassRef) : List TypeVar := (cat.openVars c.toExpr).eraseDups

/-- Whether unions list their members in the same order. -/
def sameOrder : TypeExpr → TypeExpr → Bool
  | .union _ xs, .union _ ys => TypeExpr.sameList xs ys
  | _, _ => true

/-- Whether a generic model is the same class at some arguments as at others. -/
def sameArguments : List TypeExpr → List TypeExpr → Bool
  | [], [] => true
  | x :: xs, y :: ys => x.same y && sameOrder x y && sameArguments xs ys
  | _, _ => false

/-- A generic model at arguments; at the same arguments it is the class that it was before. A new
class is noted. -/
def instanceAt (id : ClassId) (args : List TypeExpr) (topLevel : Option String) :
    Eval TypeExpr := do
  let known := cat.instances.map Prod.fst ++ (← get).instances.map Prod.fst
  match known.find? fun c => c.id = id && sameArguments c.args args with
  | some c => return c.toExpr
  | none => do
    Eval.note ⟨id, args⟩ topLevel
    return .cls id args

/-- A generic model at arguments. At its own variables it is the model itself. -/
def modelAt (id : ClassId) (args : List TypeExpr) (topLevel : Option String) :
    Eval TypeExpr :=
  if args = (cat.info id).params.map TypeExpr.typeVar then return .cls id []
  else cat.instanceAt id args topLevel

/-- The union of replaced members: `Any` swallows the others, and what has no value adds
nothing. -/
def replacedMembers (members : List TypeExpr) : List TypeExpr :=
  if members.contains (.builtin .typingAny) then [.builtin .typingAny]
  else members.filter fun t => t ≠ .form .never ∧ t ≠ .form .noReturn

/-- The key that spells some arguments between brackets. -/
def keyOf : List TypeExpr → TypeExpr
  | [t] => t
  | ts => .group .tuple ts

/-- What a head means at other arguments. -/
def subscriptHead (head : Head) (args : List TypeExpr) : Eval TypeExpr :=
  let callable := keyOf (TypeExpr.callableArguments args)
  match head with
  | .typingName .callable => cat.subscriptCallable callable
  | .typingName a => cat.subscriptAlias a (keyOf args)
  | .direct id | .flat id =>
    cat.subscriptDirect id (if id = .builtin .abcCallable then callable else keyOf args)
  | .generic id => cat.subscriptGeneric ⟨id, []⟩ (keyOf args)
  | .form f => cat.subscriptForm f (keyOf args)

mutual

/-- Replace the type variables in a type expression. -/
def replace (vars : Assignment) : TypeExpr → Eval TypeExpr
  | .typeVar v => return (vars.lookup v).getD (.typeVar v)
  | .cls id [] => do
    let params := (cat.info id).params
    if cat.isModel ⟨id, []⟩ && params.any fun v => (vars.lookup v).isSome then
      cat.modelAt id (params.map fun v => (vars.lookup v).getD (.typeVar v)) none
    else return .cls id []
  | .cls id (t :: ts) => do
    let args := t :: ts
    if (cat.openVarsOfAll args).any fun v => (vars.lookup v).isSome then
      let first ← replace vars t
      let more ← replaceAll vars ts
      cat.instanceAt id (first :: more) none
    else return .cls id args
  | .subscript head args => do
    let replaced ← replaceAll vars args
    if replaced = args then return .subscript head args else cat.subscriptHead head replaced
  | .union style members => do
    let replaced ← replaceAll vars members
    if replaced = members then return .union style members
    else match style with
      | .named => cat.unionOfValues (replacedMembers replaced)
      | .bars => return .unionOf .bars (replacedMembers replaced)
  | .annotated inner metadata => do return (← replace vars inner).annotate metadata
  | .group .list items => do return .group .list (← replaceAll vars items)
  | t => return t

/-- Replace the type variables in some type expressions. -/
def replaceAll (vars : Assignment) : List TypeExpr → Eval (List TypeExpr)
  | [] => return []
  | t :: ts => do
    let t ← replace vars t
    let ts ← replaceAll vars ts
    return t :: ts

end

/-- What brackets after a model mean. -/
def subscriptModel (c : ClassRef) (key : TypeExpr) : Eval TypeExpr := do
  match key.changingPart? with
  | some part => Eval.refuse (.unhashable (cat.kindName part))
  | none => pure ()
  if c = .builtin .baseModel then Eval.refuse .argumentsOfAllModels
  let shown := cat.display c.toExpr
  if !cat.derives c .generic then Eval.refuse (.modelWithoutParameters shown)
  let params := cat.modelParams c
  if params.isEmpty then Eval.refuse (.notGeneric shown)
  let args := key.keys
  checkCount shown args.length params.length "at least "
  if args = params.map TypeExpr.typeVar then return c.toExpr
  let topLevel := (← get).topLevel
  if c.args.isEmpty then cat.modelAt c.id args topLevel
  else cat.instanceAt c.id (← cat.replaceAll (params.zip args) c.args) topLevel

/-- The assignment that gives the variables of a class its arguments. -/
def assignmentOf (c : ClassRef) : Assignment := (cat.info c.id).params.zip c.args

end Catalog

end TypeSchema
