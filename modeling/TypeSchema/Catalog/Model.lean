import TypeSchema.Catalog.Admission
import TypeSchema.Text.Identifier
import TypeSchema.Text.Uppercase
/-!
# The fields of models

A model collects its fields when it is created.

* A field it annotates itself is made from that annotation. The outermost annotations of
  the type are set aside as metadata of the field.
* A field it inherits from a model is copied from there.
* Variables of the class and names that start with an underscore are no fields.

An annotation in which some name is not defined yet leaves the field *pending*: its type
stays as it was written until the model is rebuilt, which resolves all pending fields or
none.

Whether the types of its fields are taken is found out when a model is rebuilt, and not before.

A generic model at arguments has its fields from the moment at which it is first mentioned. An
evaluation notes such models in its trace; `Catalog.commit` records their fields.
-/

namespace TypeSchema

/-- What is given with a field when it is declared, besides its annotation. -/
structure FieldOptions where
  publishedAs : Option String
  description : Option Json
  hasDefault : Bool
  /-- Whether something is given that only fields of models have. -/
  isCustomized : Bool
  deriving Inhabited, Repr

/-- The options of a field that is annotated and nothing else. -/
def FieldOptions.plain : FieldOptions := ⟨none, none, false, false⟩

namespace TypeExpr

/-- What the outermost part of an annotation says of a field besides its type. -/
inductive Qualifier where
  | final | classVariable | initArgument | required | notRequired
  deriving DecidableEq, Repr, Inhabited

/-- What an annotation holds: a type, what its outermost annotations attached, innermost first, and
what qualifies the field, outermost first. -/
structure Inspected where
  type : TypeExpr
  metadata : List TypeExpr
  qualifiers : List Qualifier
  deriving Inhabited, Repr

/-- What is inside something that qualifies a field. -/
def Inspected.qualify (q : Qualifier) (inside : Inspected) : Inspected :=
  { inside with qualifiers := q :: inside.qualifiers }

/-- Take an annotation apart. What is qualified without a type may be anything. -/
def inspect : TypeExpr → Inspected
  | .annotated inner metadata =>
    let inside := inspect inner
    { inside with metadata := inside.metadata ++ metadata }
  | .subscript (.form .final) [inner] => (inspect inner).qualify .final
  | .subscript (.form .classVar) [inner] => (inspect inner).qualify .classVariable
  | .subscript (.form .required) [inner] => (inspect inner).qualify .required
  | .subscript (.form .notRequired) [inner] => (inspect inner).qualify .notRequired
  | .initVar _ inner => (inspect inner).qualify .initArgument
  | .form .final => ⟨.builtin .typingAny, [], [.final]⟩
  | .form .classVar => ⟨.builtin .typingAny, [], [.classVariable]⟩
  | .cls (.builtin .initVar) [] => ⟨.builtin .typingAny, [], [.initArgument]⟩
  | t => ⟨t, [], []⟩

/-- What a field of a model is not allowed to be, as it is written. -/
def Qualifier.refused? : Qualifier → Option String
  | .initArgument => some "dataclasses.InitVar"
  | .required => some "typing.Required"
  | .notRequired => some "typing.NotRequired"
  | .final | .classVariable => none

/-- A text without the name and the dot that it starts with, if it does. -/
def withoutModule (cs : List Char) : List Char :=
  match cs.takeWhile Text.Identifier.isPart, cs.dropWhile Text.Identifier.isPart with
  | _ :: _, '.' :: rest => rest
  | _, _ => cs

/-- What follows a name of some module and a bracket at the start of a text. -/
def afterHead? (name : String) (cs : List Char) : Option (List Char) :=
  let head := name.toList ++ ['[']
  let cs := withoutModule cs
  if head.isPrefixOf cs then some (cs.drop head.length) else none

/-- Whether a text declares a variable of the class, as far as its first words show. -/
def writesClassVariable (text : String) : Bool :=
  let declares (cs : List Char) : Bool := (afterHead? "ClassVar" cs).isSome
  declares text.toList || (afterHead? "Annotated" text.toList).any declares

/-- Whether an annotation declares a variable of the class. -/
def isClassVariable : TypeExpr → Bool
  | .form .classVar | .subscript (.form .classVar) _ => true
  | .annotated (.form .classVar) _ | .annotated (.subscript (.form .classVar) _) _ => true
  | .forwardRef text _ _ => writesClassVariable text
  | _ => false

end TypeExpr

namespace Catalog

variable (cat : Catalog)

/-- Where the annotations of a model are looked up: the class itself, what its body holds, and what
surrounds the model that is being created. -/
def modelScope (c : ClassRef) (surroundings : List (String × TypeExpr)) : Scope :=
  ⟨[.names [(cat.nameOf c, c.toExpr)], .body c, .names surroundings], cat.moduleLayers c, none, []⟩

/-- Whether an annotation is a reference, and not yet a type. -/
def isWrittenReference : TypeExpr → Bool
  | .constant (.string _) | .forwardRef _ _ _ => true
  | _ => false

/-- What an annotation means in a scope. A type that was evaluated before does not fail for how
values are used in it. -/
def modelMeaning (scope : Scope) (written : TypeExpr) : Eval TypeExpr :=
  tryCatch (cat.meaning scope written) fun
    | .misused fault =>
      throw (if isWrittenReference written then .misused fault else .contradiction)
    | e => throw e

/-- What an annotation means in a scope, or how it stays if a name in it is not defined. -/
def attempt (scope : Scope) (written : TypeExpr) : Eval (TypeExpr × Option TypeExpr) :=
  tryCatch (do return (← cat.modelMeaning scope written, none)) fun
    | .undefinedName _ _ => do return (← typed written none true, some written)
    | e => throw e

/-- The name under which a resolved field is published without an alias of its own. -/
def generatedAlias (upperAliases : Bool) (name : String) : Option String :=
  if upperAliases then some (Text.upper name) else none

/-- A field with the given type, which may be left to resolve. -/
def makeField (upperAliases : Bool) (name : String) (options : FieldOptions)
    (t : TypeExpr) (pending : Option TypeExpr) : ModelField :=
  let inspected := t.inspect
  { name
    publishedAs :=
      -- As long as a field is pending, no alias is generated for it.
      if pending.isSome then options.publishedAs
      else options.publishedAs <|> generatedAlias upperAliases name
    type := inspected.type, metadata := inspected.metadata
    description := options.description, hasDefault := options.hasDefault, pending }

/-! ## Models at arguments -/

/-- A field with type variables replaced. References that were left in the arguments are resolved as
far as names go that are in scope everywhere. -/
def replacedField (vars : Assignment) (f : ModelField) : Eval ModelField := do
  let (t, pending) ← cat.attempt ⟨[], [], none, []⟩ (← cat.replace vars f.type)
  let inspected := t.inspect
  return { f with
    type := inspected.type, metadata := inspected.metadata ++ f.metadata
    pending := f.pending <|> pending }

/-- The fields of a model, as they were recorded. -/
def recordedFields? (c : ClassRef) : Option (List ModelField) :=
  if c.args.isEmpty then (cat.info c.id).model.map ModelInfo.fields
  else (OrderedMap.find? c cat.instances).map ModelInstance.fields

/-- Whether fields without an alias are published in upper case. -/
def hasUpperAliases (c : ClassRef) : Bool :=
  (cat.info c.id).model.any ModelInfo.upperAliases

/-- The fields of a model with the pending ones resolved. -/
def rebuiltFields (c : ClassRef) (fields : List ModelField) : Eval (List ModelField) :=
  let surroundings := (((cat.info c.id).model).map ModelInfo.surroundings).getD []
  fields.mapM fun f =>
    match f.pending with
    | none => return f
    | some written => do
      let t ← cat.modelMeaning (cat.modelScope c surroundings) written
      let t ← cat.replace (cat.assignmentOf c) t
      let options : FieldOptions := ⟨f.publishedAs, f.description, f.hasDefault, false⟩
      return makeField (cat.hasUpperAliases c) f.name options t none

/-- Record the fields of a model. -/
def setFields (c : ClassRef) (fields : List ModelField) : Catalog :=
  if c.args.isEmpty then
    cat.updateInfo c.id fun i => { i with model := i.model.map fun m => { m with fields } }
  else
    let module := cat.moduleOf c
    { cat with instances := OrderedMap.put c { fields, module } cat.instances }

/-- Put a class under its name into a module. Names that are taken there get a line at their end. -/
def place (c : ClassRef) (module : String) : (tries : Nat) → (name : String) → Catalog
  | 0, _ => cat
  | tries + 1, name =>
    if (cat.ownNames.lookup (module, name)).isSome then place c module tries (name ++ "_")
    else { cat with ownNames := cat.ownNames ++ [((module, name), c.toExpr)] }

/-- Record a generic model at arguments. One that was made at the top level of a module belongs to
that module. -/
def addInstance (c : ClassRef) (fields : List ModelField) (topLevel : Option String) : Catalog :=
  let module := topLevel <|> cat.moduleOf c
  let cat := { cat with instances := OrderedMap.put c { fields, module } cat.instances }
  match topLevel with
  | some m => cat.place c m (cat.ownNames.length + 1) (cat.qualnameOf c)
  | none => cat

/-- The catalog after a trace, but for the models that were met. -/
def absorb (trace : Trace) : Catalog :=
  { cat with serial := trace.serial, written := trace.written }

/-- Resolve the pending fields of a model, or none of them if a name is not defined. The generic
models at arguments that are met are returned beside the new catalog. -/
def rebuildNoting (c : ClassRef) :
    Except EvalError (Catalog × List (ClassRef × Option String)) :=
  match cat.recordedFields? c with
  | none => .ok (cat, [])
  | some fields =>
    match (cat.rebuiltFields c fields).run (cat.newTrace none) with
    | .ok (rebuilt, trace) => do
      let cat := (cat.setFields c rebuilt).absorb trace
      cat.checkFields c rebuilt
      return (cat, trace.instances)
    | .error (.undefinedName _ _) => .ok (cat, [])
    | .error e => .error e

/-- Record the fields of some generic models at arguments, which are `depth` deep in each other at
most. The models themselves are rebuilt first. -/
def recordInstances : (depth : Nat) → Catalog → List (ClassRef × Option String) →
    Except EvalError Catalog
  | 0, cat, _ => .ok cat
  | depth + 1, cat, instances =>
    instances.foldlM (fun cat (c, topLevel) => do
      if (cat.recordedFields? c).isSome then return cat
      -- The model without arguments comes first: from its fields those at arguments are made.
      let (cat, met) ← cat.rebuildNoting ⟨c.id, []⟩
      let fields := (cat.recordedFields? ⟨c.id, []⟩).getD []
      let (fields, trace) ←
        (fields.mapM (cat.replacedField (cat.assignmentOf c))).run (cat.newTrace none)
      let cat := (cat.addInstance c fields topLevel).absorb trace
      recordInstances depth cat (met ++ trace.instances)) cat

/-- How deep generic models at arguments are followed that mention each other. -/
def instanceDepth : Nat := 16

/-- The catalog after an evaluation that left a trace. -/
def commit (trace : Trace) : Except EvalError Catalog :=
  recordInstances instanceDepth (cat.absorb trace) trace.instances

/-- Resolve the pending fields of a model, or none of them if a name is not defined. -/
def rebuild (c : ClassRef) : Except EvalError Catalog := do
  let (cat, met) ← cat.rebuildNoting c
  recordInstances instanceDepth cat met

/-- The fields of a model. -/
def modelFields (c : ClassRef) : Except EvalError (List ModelField) :=
  match cat.recordedFields? c with
  | some fields => .ok fields
  | none => do
    let cat ← cat.commit { cat.newTrace none with instances := [(c, none)] }
    return (cat.recordedFields? c).getD []

/-! ## Collecting fields -/

/-- The annotations of a class and its ancestors by name, each with the class that wrote
it. -/
def annotationsByName (c : ClassRef) : List (String × ClassRef × TypeExpr) :=
  OrderedMap.ofList ((cat.mro c).reverse.flatMap fun d =>
    (cat.info d.id).annotations.map fun (name, written) => (name, d, written))

/-- The fields that a class with these bases inherits; the first base wins. -/
def inheritedFields (bases : List ClassRef) : Except EvalError (List (String × ModelField)) := do
  let layers ← bases.reverse.mapM cat.modelFields
  return OrderedMap.ofList (layers.flatten.map fun f => (f.name, f))

/-- A field that is copied from a base. -/
def inheritField (upperAliases : Bool) (f : ModelField) : ModelField :=
  if f.pending.isSome then f
  else { f with publishedAs := f.publishedAs <|> generatedAlias upperAliases f.name }

/-- Whether a name in the body of a model is never that of a field. -/
def isPrivateName (name : String) : Bool := name.startsWith "_" || name == "model_config"

/-- An annotation of a model that is being created. -/
structure ModelAnnotation where
  name : String
  type : TypeExpr
  /-- What is left to resolve: the annotation as it was written. -/
  pending : Option TypeExpr
  deriving Inhabited, Repr

/-- What the annotations of a model and its ancestors mean while it is being created among some
names. -/
def modelAnnotations (c : ClassRef) (surroundings : List (String × TypeExpr)) :
    Eval (List ModelAnnotation) :=
  ((cat.annotationsByName c).filter fun (name, _) => !isPrivateName name).mapM
    fun (name, owner, written) => do
      let (type, pending) ← cat.attempt (cat.modelScope owner surroundings) written
      return { name, type, pending }

/-- The names of members of all models that count as the values of fields of these names. -/
def modelMembers : List String :=
  ["model_computed_fields", "model_construct", "model_copy", "model_dump", "model_dump_json",
   "model_extra", "model_fields", "model_fields_set", "model_json_schema",
   "model_parametrized_name", "model_post_init", "model_rebuild", "model_validate",
   "model_validate_json", "model_validate_strings"]

/-- Whether something stands already under the name of a field, which its value is then. -/
def hasValue (c : ClassRef) (name : String) (given : FieldOptions) : Bool :=
  given.hasDefault || !given.isCustomized &&
    ((cat.attribute? c name).isSome || modelMembers.contains name)

/-- Whether an annotation declares a variable of a class: so it says, or it is final and something
stands under its name. -/
def declaresVariable (c : ClassRef) (given : FieldOptions) (a : ModelAnnotation) : Bool :=
  a.type.isClassVariable ||
    a.pending.isNone && a.type.inspect.qualifiers.contains .final && cat.hasValue c a.name given

/-- The fields of a model with some annotations and options, beside the inherited ones. -/
def fieldsOfAnnotations (c : ClassRef) (upperAliases : Bool) (inherited : List (String × ModelField))
    (options : List (String × FieldOptions)) (annotations : List ModelAnnotation) :
    List ModelField :=
  let own := (cat.info c.id).annotations
  annotations.filterMap fun a =>
    -- Options count only where the class itself writes the annotation.
    let given := ((own.lookup a.name).bind fun _ => options.lookup a.name).getD .plain
    if cat.declaresVariable c given a then none
    else match own.lookup a.name, inherited.lookup a.name with
      | none, some f =>
        if cat.hasValue c a.name given then
          some (makeField upperAliases a.name given a.type a.pending)
        else some (inheritField upperAliases f)
      | _, _ => some (makeField upperAliases a.name given a.type a.pending)

end Catalog

end TypeSchema
