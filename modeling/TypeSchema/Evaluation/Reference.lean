import TypeSchema.Evaluation.Operator
import TypeSchema.Evaluation.Scope
/-!
# Resolving references

A type expression may hold references: quoted names, which are looked up only when someone asks.
Resolution replaces each reference by what its text means, which may hold references again. A
reference that is met while its own text is being resolved stays as it is, so a synonym that
mentions itself does not unfold for ever.

What a text means is left to an `Evaluator`, since an expression may itself ask for the resolved
annotations of a class.

Among arguments that are kept as written a plain text is a reference too.
-/

namespace TypeSchema

namespace TypeExpr

/-- A reference as it is met: its text, its module if that is fixed, and whether it stands where a
class declares its attributes. -/
structure Mention where
  text : String
  module : Option String
  declares : Bool

/-- A reference as a type. -/
def Mention.toExpr (mention : Mention) : TypeExpr :=
  .forwardRef mention.text mention.module mention.declares

/-- Resolves what is mentioned. -/
abbrev Resolver := Mention → Eval TypeExpr

end TypeExpr

/-- What expressions mean in scopes. -/
abbrev Evaluator := Scope → Expression → Eval TypeExpr

namespace Catalog

variable (cat : Catalog)

/-- The union of replaced members, written with bars. -/
def rejoin : List TypeExpr → Eval TypeExpr
  | [] => return .noneType
  | t :: ts => ts.foldlM (cat.combine .bitOr) t

/-- An argument as it is before its text is read: a text is a reference. -/
def unread : TypeExpr → TypeExpr
  | .constant (.string text) => .forwardRef text none false
  | t => t

mutual

/-- Replace the references in a type expression, from left to right. -/
def mapReferences (f : TypeExpr.Resolver) : TypeExpr → Eval TypeExpr
  | .forwardRef text module declares => f ⟨text, module, declares⟩
  | .subscript (.direct id) args | .subscript (.flat id) args => do
    let replaced ← mapWritten f args
    let isReplaced := id = .builtin .abcCallable && !TypeExpr.sameList replaced (args.map unread)
    return .subscript (if isReplaced then .flat id else .direct id) replaced
  | .subscript head args => do return .subscript head (← mapAll f args)
  | .union style members => do
    let replaced ← mapAll f members
    if TypeExpr.sameList replaced members then return .union style members
    else match style with
      | .named => cat.unionOfValues replaced
      | .bars => cat.rejoin replaced
  | .annotated inner metadata => do
    cat.annotated (← mapReferences f inner) metadata
  | .unpacked inner => do return .subscript (.form .unpack) [← mapReferences f inner]
  | t => return t

/-- Replace the references in some type expressions. -/
def mapAll (f : TypeExpr.Resolver) : List TypeExpr → Eval (List TypeExpr)
  | [] => return []
  | t :: ts => do
    let t ← mapReferences f t
    let ts ← mapAll f ts
    return t :: ts

/-- Replace the references in arguments that are kept as written. -/
def mapWritten (f : TypeExpr.Resolver) : List TypeExpr → Eval (List TypeExpr)
  | [] => return []
  | .constant (.string text) :: ts => do
    let t ← f ⟨text, none, false⟩
    let ts ← mapWritten f ts
    return t :: ts
  | t :: ts => do
    let t ← mapReferences f t
    let ts ← mapWritten f ts
    return t :: ts

end

/-- The demand that the meaning of a reference has to meet. -/
def referenceDemand (declares : Bool) : Demand :=
  ⟨"Forward references must evaluate to types.", true, declares, none⟩

/-- The scope of a reference whose module may be fixed. -/
def Scope.forModule (scope : Scope) (module : Option String) : Scope :=
  match module with
  | some m => if cat.hasModule m then { scope with outer := [.module m] } else scope
  | none => scope

/-- What the text of a reference means in a scope, its own references not yet resolved. -/
def evalText (ev : Evaluator) (scope : Scope) (mention : TypeExpr.Mention) : Eval TypeExpr :=
  match readReference mention.text with
  | .ok e => do
    let t ← ev scope e
    let t := match cat.plain t with
      | .constant (.string s) => .constant (.string s)
      | _ => t
    cat.demanded (referenceDemand mention.declares) t
  | .error e => throw e

/-- Resolve the references in a type expression, at most `depth` deep inside each other; a text in
`open'` is being resolved already and stays a reference. -/
def resolveIn (ev : Evaluator) : (depth : Nat) → (scope : Scope) → (open' : List String) →
    TypeExpr → Eval TypeExpr
  | 0, _, _, t => return t
  | depth + 1, scope, open', t =>
    cat.mapReferences (fun mention => do
      if open'.contains mention.text then return mention.toExpr
      else
        let scope := Scope.forModule cat scope mention.module
        let meaning ← cat.evalText ev scope mention
        resolveIn ev depth scope (mention.text :: open') meaning) t

/-- How deep references can lie inside each other: each level below the first stands inside
a bound name or inside the quotes of the level above. -/
def referenceDepth (t : TypeExpr) : Nat :=
  let textLength := match t with
    | .forwardRef s _ _ | .constant (.string s) => s.length
    | _ => 0
  let bound := (cat.classes.map fun i => i.attributes.length).foldl (· + ·) cat.names.length
  bound + textLength + 8

/-- Resolve the references in a type expression. -/
def resolve (ev : Evaluator) (scope : Scope) (t : TypeExpr) : Eval TypeExpr :=
  cat.resolveIn ev (cat.referenceDepth t) scope [] t

/-- What an annotation means in a scope, all references resolved. A variable of a class may be
written as a plain text. -/
def meaningBy (ev : Evaluator) (scope : Scope) (written : TypeExpr) : Eval TypeExpr := do
  cat.resolve ev scope (← typed written none true)

/-! ## Annotations of classes -/

/-- The layers of the module that a class names as its own. -/
def moduleLayers (c : ClassRef) : List Layer := ((cat.moduleOf c).map Layer.module).toList

/-- Where the annotations of a class are looked up. -/
def hintScope (c : ClassRef) : Scope := ⟨cat.moduleLayers c, [.body c], none, []⟩

/-- Make sure that among the names in the body of a class none hides the table of its annotations, which
is gone through. -/
def checkTable (names : List (String × TypeExpr)) : Eval Unit := do
  match names.lookup "__annotations__" with
  | some t => do let _ ← cat.attributeOf t "items"
  | none => return

/-- What the annotations in a class's own body mean. -/
def ownHintsBy (ev : Evaluator) (c : ClassRef) : Eval (List (String × TypeExpr)) := do
  cat.checkTable (cat.info c.id).attributes
  (cat.info c.id).annotations.mapM fun (name, written) => do
    return (name, ← cat.meaningBy ev (cat.hintScope c) written)

/-- What the annotations of a class and its ancestors mean, by name. -/
def hintsBy (ev : Evaluator) (c : ClassRef) : Eval (List (String × TypeExpr)) := do
  -- From the last ancestor to the class: a name keeps its first place and takes its last type.
  let layers ← (cat.mro c).reverse.mapM (cat.ownHintsBy ev)
  return OrderedMap.ofList layers.flatten

end Catalog

end TypeSchema
