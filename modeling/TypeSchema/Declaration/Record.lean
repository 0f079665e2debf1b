import TypeSchema.Catalog.Model
import TypeSchema.Declaration.Body
import TypeSchema.Expression.Token
/-!
# Fields of records

What the annotations in the body of a class become in dataclasses, named tuples and typed
dictionaries.

* A dataclass inherits the fields of its ancestors and adds its own. Variables of the class and
  arguments of the initialiser are no stored fields, and a marker is no field at all. Of an annotation
  that is a text only the names at its start count.
* A named tuple and a typed dictionary ask for types at once.
-/

namespace TypeSchema

namespace TypeExpr

/-- Whether an annotation of a dataclass is the marker after which fields are given by name. -/
def isKeywordMarker (t : TypeExpr) : Bool := t = .form .keywordOnly

/-- Whether an annotation of a dataclass declares a variable of the class. -/
def isVariableMarker : TypeExpr → Bool
  | .form .classVar | .subscript (.form .classVar) _ => true
  | _ => false

/-- Whether an annotation of a dataclass declares an argument of the initialiser. -/
def isArgumentMarker : TypeExpr → Bool
  | .cls (.builtin .initVar) [] | .initVar _ _ => true
  | _ => false

/-- The name at the start of a text, or the two names with a dot between them. -/
def leadingNames? (text : String) : Option (Option String × String) :=
  let skip (cs : List Char) := cs.dropWhile Text.isBlank
  let word (cs : List Char) := String.ofList (cs.takeWhile Text.Identifier.isPart)
  let after (cs : List Char) := skip (cs.dropWhile Text.Identifier.isPart)
  let cs := skip text.toList
  let first := word cs
  if first = "" then none
  else match after cs with
    | '.' :: rest =>
      let second := word (skip rest)
      some (if second = "" then (none, first) else (some first, second))
    | _ => some (none, first)

end TypeExpr

namespace Catalog

variable (cat : Catalog)

/-- What the names at the start of an annotation mean in a module: a name of that module, or
a member of the library's `library` module if the first name is that module. -/
def meaningOfStart? (module library text : String) : Option TypeExpr :=
  match TypeExpr.leadingNames? text with
  | some (none, name) => cat.inLayer? name (.module module)
  | some (some m, name) =>
    if cat.inLayer? m (.module module) = some (.module library) then moduleMember? library name
    else none
  | none => none

/-- Whether an annotation of a dataclass of a module passes a test that members of the library's
`library` module may pass. -/
def isMarkedAs (module library : String) (test : TypeExpr → Bool) (written : TypeExpr) :
    Bool :=
  test written || match written with
    | .constant (.string text) => (cat.meaningOfStart? module library text).any test
    | _ => false

/-- What an annotation makes of a field of a dataclass; a marker makes none. -/
def fieldRole? (module : String) (written : TypeExpr) : Option FieldRole :=
  if cat.isMarkedAs module "dataclasses" TypeExpr.isKeywordMarker written then none
  else if cat.isMarkedAs module "typing" TypeExpr.isVariableMarker written ||
      cat.isMarkedAs module "dataclasses" TypeExpr.isArgumentMarker written then
    some .unstored
  else some .stored

/-- The class of what a field of a dataclass has where no value is given, if this is a table that every
class has. -/
def tableKind? : String → Option String
  | "__dict__" => some "mappingproxy"
  | "__annotations__" => some "dict"
  | _ => none

/-- Check the own annotations of a dataclass in their order. The names at the start of a text are
looked up in the module that the class names as its own, which has to be there then. -/
def checkOwnFields (module : String) (roles : List (String × TypeExpr × Option FieldRole)) :
    Except DeclareError Unit := do
  -- The state says whether the marker was met.
  let _ ← roles.foldlM (fun isMarked (name, written, role) => do
    match written with
    | .constant (.string text) =>
      match TypeExpr.leadingNames? text with
      | some (none, _) =>
        if !cat.hasModule module then
          throw (.evaluation (.missingAttribute (some "'NoneType' object") "__dict__"))
      | _ => pure ()
    | _ => pure ()
    match role with
    | none => if isMarked then throw (.body (.keywordOnlyTwice name)) else return true
    | some .unstored => return isMarked
    | some .stored =>
      match tableKind? name with
      | some kind => throw (DeclareError.body (.changingDefault kind name))
      | none => return isMarked) false

/-- The names of attributes that no class that `type` created is without. -/
def fixedNames : List String := ["__doc__", "__module__"]

/-- The fault of a field of a dataclass whose name is none that an argument may have. -/
def nameFault? (name : String) : Option BodyFault :=
  let cs := name.toList
  if cs.all Text.Identifier.isPart then
    if Token.keywords.contains name || cs.isEmpty then
      some (.fieldName "invalid syntax" 2)
    else match cs.dropWhile Char.isDigit with
      | [] => some (.fieldName "invalid syntax" 2)
      | rest =>
        if rest.length = cs.length then none else some (.fieldName "invalid decimal literal" 2)
  else if cs.all Text.isBlank then some (.fieldName "invalid syntax" 2)
  else some (.fieldName "invalid syntax" 1)

/-- Check the names of the fields of a dataclass as those of arguments. -/
def checkFieldNames (names : List String) : Except BodyFault Unit :=
  let faults := names.filterMap nameFault?
  let isEarly : BodyFault → Bool
    | .fieldName _ 1 => true
    | _ => false
  -- A fault in the first line is found before those in the second, whichever fields they are of.
  match faults.find? isEarly <|> faults.head? with
  | some fault => .error fault
  | none => .ok ()

/-- Make a class a dataclass: the field list is what its ancestors list, from the last to the first,
and then its own fields. -/
def dataFieldsOf (c : ClassRef) (options : List (String × FieldOptions)) :
    Except DeclareError (List DataField) := do
  let info := cat.info c.id
  let inherited := info.mro.tail.reverse.flatMap fun b => (cat.dataclassFields? b).getD []
  let module := info.module.getD info.home
  let roles := info.annotations.map fun (name, t) => (name, t, cat.fieldRole? module t)
  let _ ← (Eval.value (cat.checkTable info.attributes) cat).mapError .evaluation
  cat.checkOwnFields module roles
  match options.find? fun (name, o) =>
      info.metaclass = .plain && fixedNames.contains name && o.isCustomized && !o.hasDefault with
  | some (name, _) => throw (.body (.fixedAttribute name info.name))
  | none => pure ()
  if info.mro.tail.any fun b => (cat.info b.id).isFrozen then throw (.base .frozen)
  let own := roles.filterMap fun (name, written, role) => role.map fun role =>
    ({ name, written, role
       description := (options.lookup name).bind FieldOptions.description
       hasDefault := match cat.attribute? c name with
         | some t =>
           if ClassBody.isSpecified t then (options.lookup name).any (·.hasDefault) else true
         | none => false } : DataField)
  -- A field that is declared again keeps its place.
  let fields := (OrderedMap.ofList ((inherited ++ own).map fun f => (f.name, f))).map Prod.snd
  (checkFieldNames ((fields.filter (·.role = .stored)).map (·.name))).mapError .body
  return fields

/-! ## Named tuples -/

/-- The names that the body of every class with annotations binds by itself. -/
def statedNames : List String := ["__module__", "__qualname__", "__annotations__"]

/-- Check the order of the fields of a named tuple: none that has to be given follows one that need
not be. -/
def checkTupleOrder (fields : List (String × Bool)) : Except BodyFault Unit := do
  -- The state holds the fields with defaults so far, which the message lists.
  let _ ← fields.foldlM (fun defaults (name, hasDefault) =>
    if hasDefault then return defaults ++ [name]
    else if defaults.isEmpty then return defaults
    else throw (BodyFault.requiredAfterDefaults name defaults)) []

/-- The types of the fields of a named tuple. -/
def tupleAnnotations (annotations : List (String × TypeExpr)) :
    Eval (List (String × TypeExpr)) :=
  annotations.mapM fun (name, t) => do
    let demand := Demand.argument ("field " ++ name ++ " annotation must be a type")
    return (name, ← cat.demanded demand t)

/-- The names that the body of a named tuple may not bind. -/
def tupleNames : List String :=
  ["__new__", "__init__", "__slots__", "__getnewargs__", "_fields", "_field_defaults",
   "_field_types", "_make", "_replace", "_asdict", "_source"]

/-- Check the names of the fields of a named tuple and those that its body binds. -/
def checkTupleNames (fields bound : List String) : Except BodyFault Unit :=
  match fields.find? (·.startsWith "_"), bound.find? tupleNames.contains with
  | some name, _ => .error (.underscoredTupleField name)
  | none, some name => .error (.tupleName name)
  | none, none => .ok ()

/-- What a named tuple tells of its fields, of which some stand for a value where none is given. -/
def tupleFacts (fields : List (String × Bool)) (bound : List (String × TypeExpr)) :
    List (String × TypeExpr) :=
  let names : TypeExpr := .group .tuple (fields.map fun (name, _) => .constant (.string name))
  let defaults := fields.filterMap fun (name, _) =>
    (bound.lookup name).map fun t => TypeExpr.group .tuple [.constant (.string name), t]
  [("_fields", names), ("_field_defaults", .group .dict defaults), ("__match_args__", names)]

/-! ## Typed dictionaries -/

/-- The types of the own keys of a typed dictionary. References are looked up in the module where it
is declared. -/
def keyAnnotations (module : String) (annotations : List (String × TypeExpr)) :
    Eval (List (String × TypeExpr)) :=
  annotations.mapM fun (name, t) => do
    let message := "TypedDict('Name', \x7bf0: t0, f1: t1, ...\x7d); each t must be a type"
    return (name, ← cat.demanded ⟨message, true, false, some module⟩ t)

/-- Whether an annotation of a key says that the key has to be there, or that it need not be. -/
def ownRequirement? : TypeExpr → Option Bool
  | .annotated inner _ => ownRequirement? inner
  | .subscript (.form .required) _ => some true
  | .subscript (.form .notRequired) _ => some false
  | _ => none

/-- Which keys of a typed dictionary have to be there, by its bases and its own annotations. -/
def keyTable (isTotal : Bool) (bases : List ClassRef) (own : List (String × TypeExpr)) :
    KeyTable :=
  let inherited := bases.filterMap fun b => (cat.info b.id).keys
  let isRequired (t : TypeExpr) : Bool := (ownRequirement? t).getD isTotal
  let named (wanted : Bool) : List String :=
    (own.filter fun (_, t) => isRequired t == wanted).map Prod.fst
  { isTotal
    required := (inherited.flatMap (·.required) ++ named true).eraseDups
    optional := (inherited.flatMap (·.optional) ++ named false).eraseDups }

/-- The keys that a typed dictionary has from its bases. -/
def inheritedKeys (bases : List ClassRef) : List (String × TypeExpr) :=
  bases.flatMap fun b => if cat.isTypedDict b then (cat.info b.id).annotations else []

end Catalog

end TypeSchema
