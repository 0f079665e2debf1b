import TypeSchema.Declaration.Class
/-!
# Running declarations

`Catalog.declare` runs a declaration on a catalog. What it names is visible in every module of the
program from then on.

The body of a class statement is run after its head was evaluated and before the class exists: what it
declares is visible by its plain name in the annotations after it.
-/

namespace TypeSchema

namespace Declaring

/-- Make sure that there is a module. -/
def ensureModule (module : String) : Declaring Unit :=
  modify fun cat =>
    if cat.modules.contains module then cat
    else { cat with modules := cat.modules ++ [module] }

/-- Rename a class whose statement says so. -/
def renameClass (head : ClassHead) (c : ClassRef) : Declaring Unit := do
  match head.newModule with
  | some module => modify fun cat => cat.updateInfo c.id fun i => { i with module }
  | none => pure ()
  match head.newQualname with
  | some (some qualname) => modify fun cat => cat.updateInfo c.id fun i => { i with qualname }
  | some none => throw (.qualnameNotText ((← get).nameOf c) "NoneType")
  | none => pure ()

/-- Resolve the pending fields of a model. -/
def rebuildModel (t : TypeExpr) : Declaring Unit := do
  let cat ← get
  match t.asClass?.filter cat.isModel with
  | some c => set (← check .evaluation (cat.rebuild c))
  | none => let _ ← evaluate none fun cat => cat.attributeOf t "model_rebuild"

/-- Make a type variable, or a type of its own, by a call of a member of the `typing` module. -/
def makeVariable (site : Site) (maker : String) (make : TypeVar → TypeExpr) (name : String)
    (type : Option Expression) : Declaring TypeExpr := do
  let function ← valueAt site (.path ["typing", maker])
  let others ← type.toList.mapM (valueAt site)
  if (BuiltinName.inModule? "typing" maker).map BuiltinName.toExpr = some function then
    modifyGet fun cat =>
      let v : TypeVar := ⟨cat.serial, name, site.module⟩
      let supertypes := cat.supertypes ++ others.map fun t => (v, t)
      (make v, { cat with serial := cat.serial + 1, supertypes })
  else evaluate none fun cat => cat.call function ⟨.ofText name :: others, []⟩

mutual

/-- Run a declaration at a site, and return what it names. -/
def declareAt (site : Site) : Decl → Declaring (List (String × TypeExpr))
  | .cls form head body => do
    let inside := site.inModule head.module
    ensureModule inside.module
    -- The head comes first, then what is declared inside, then the fields, which see that.
    let frame ← openClass inside form head
    let name := head.className form
    let inner ← declareAllAt
      { outer := some (site.qualname name), owner := some name, module := inside.module,
        names := [] } body
    let (c, value) ← closeClass inside form head frame inner
    renameClass head c
    return [(site.boundName head.name, value)]
  | .typeVar name module => do
    let site := site.inModule module
    ensureModule site.module
    return [(site.boundName name, ← makeVariable site "TypeVar" .typeVar name none)]
  | .newType name module type => do
    let site := site.inModule module
    ensureModule site.module
    return [(site.boundName name, ← makeVariable site "NewType" .newType name (some type))]
  | .synonym name module type => do
    let site := site.inModule module
    ensureModule site.module
    return [(site.boundName name, ← valueAt site type)]
  | .describe target text => do
    let decorator ← calling site ["description"] (descriptionArguments text) (.describe text)
    let _ ← decorate default [] (← valueAt site target) decorator
    return []
  | .register target rows eachMade => do
    let function ← valueAt site (.name "register_schema_fields")
    let t ← valueAt site target
    let rows ← evaluateRows site rows eachMade
    if function = .function "register_schema_fields" then
      set (← check .registry ((← get).register t rows))
    else
      -- Another value stands under the name of the function, and is called in its place.
      let arguments : Arguments := ⟨[t, .group .list []], []⟩
      let _ ← evaluate none fun cat => cat.call function arguments
    return []
  | .rebuild target => do
    rebuildModel (← valueAt site target)
    return []

/-- Run the declarations in the body of a class; each sees the names of those before. -/
def declareAllAt (site : Site) : List Decl → Declaring (List (String × TypeExpr))
  | [] => return []
  | d :: ds => do
    let first ← declareAt site d
    let others ← declareAllAt { site with names := first ++ site.names } ds
    return first ++ others

end

/-- Run a declaration; what it names is bound in every module. -/
def declare (d : Decl) : Declaring Unit := do
  let names ← declareAt .top d
  modify fun cat => names.foldl (fun cat (name, value) => cat.bind name value) cat

end Declaring

namespace Catalog

/-- Run a declaration. The catalog after it is returned even if it fails. -/
def declare (cat : Catalog) (d : Decl) : Except DeclareError Unit × Catalog :=
  (Declaring.declare d).run.run cat

/-- The catalog of a program, or why one of its declarations failed. -/
def ofDecls (decls : List Decl) : Except DeclareError Catalog :=
  match (decls.forM Declaring.declare).run.run .empty with
  | (.ok (), cat) => .ok cat
  | (.error e, _) => .error e

/-- What a written expression means at the top of a program, and the catalog with the models that were
met on the way. -/
def evaluate (cat : Catalog) (e : Expression) : Except EvalError (TypeExpr × Catalog) := do
  let (t, trace) ← (cat.eval Site.top.scope e).run (cat.newTrace Site.top.topLevel)
  return (t, ← cat.commit trace)

end Catalog

end TypeSchema
