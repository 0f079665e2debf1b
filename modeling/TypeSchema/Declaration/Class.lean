import TypeSchema.Declaration.Bases
import TypeSchema.Declaration.Basic
import TypeSchema.Declaration.Body
import TypeSchema.Declaration.Record
import TypeSchema.Text.Compatibility
/-!
# Creating classes

A class statement is run in three steps: its head is evaluated, then its body is run, and then the
class is created from what the body holds.

What is written in the head decides the *kind* of the class, whatever form its statement has: a
statement that looks like that of a model makes a plain class if its bases are plain. Each kind checks
its body in its own way before there is a class.
-/

namespace TypeSchema

/-- A step of a declaration. What it changed before it failed stays changed. -/
abbrev Declaring := ExceptT DeclareError (StateM Catalog)

namespace Declaring

/-- The result of a check. -/
def check {ε α : Type} (wrap : ε → DeclareError) : Except ε α → Declaring α
  | .ok a => return a
  | .error e => throw (wrap e)

/-- Evaluate something at the top level of a module, or elsewhere, and record the models that are
met. -/
def evaluate {α : Type} (topLevel : Option String) (action : Catalog → Eval α) : Declaring α := do
  let cat ← get
  let (a, trace) ← check .evaluation ((action cat).run (cat.newTrace topLevel))
  set (← check .evaluation (cat.commit trace))
  return a

end Declaring

/-- Where a declaration stands. -/
structure Site where
  /-- The qualified name of the class in whose body it stands. -/
  outer : Option String
  /-- The name of that class. -/
  owner : Option String
  module : String
  /-- The names of that body. -/
  names : List (String × TypeExpr)
  deriving Inhabited, Repr

namespace Site

/-- Outside all classes. -/
def top : Site := ⟨none, none, Catalog.mainModule, []⟩

/-- Where the names at a site are looked up. -/
def scope (site : Site) : Scope :=
  ⟨[.names site.names], [.module site.module], site.owner, []⟩

/-- The name under which something is bound at a site. -/
def boundName (site : Site) (name : String) : String :=
  site.scope.mangled (Text.Compatibility.ofName name)

/-- The same site in another module, if one is named. The body of a class stands in the module of the
class. -/
def inModule (site : Site) (module : Option String) : Site :=
  if site.outer.isSome then site else { site with module := module.getD site.module }

/-- The module at whose top level a site is, if it is. -/
def topLevel (site : Site) : Option String :=
  if site.outer.isNone then some site.module else none

/-- The qualified name of a class that is declared at a site. -/
def qualname (site : Site) (name : String) : String :=
  match site.outer with
  | some outer => outer ++ "." ++ name
  | none => name

end Site

/-- What a class is, by what creates it. -/
inductive ClassKind where
  | plain | model | enumeration | namedTuple | typedDict
  deriving DecidableEq, Repr, Inhabited

/-- What is done to a class once it exists. -/
inductive Decorator where
  | describe (text : String)
  | register (rows : List (FieldRow TypeExpr))
  /-- Make it a dataclass. -/
  | dataclass
  /-- Call a value that stands under the name of one of these. -/
  | other (value : TypeExpr)
  deriving Inhabited, Repr

/-- A class statement whose head was evaluated. -/
structure ClassFrame where
  kind : ClassKind
  bases : Bases
  metaclass : Metaclass
  /-- The data type of an enumeration. -/
  dataType : Option ClassRef
  /-- What is done to the class, in order. -/
  decorators : List Decorator
  deriving Inhabited, Repr

namespace ClassHead

/-- The name of a class. A typed dictionary that is made by a call has the name it is given. -/
def className (head : ClassHead) (form : ClassForm) : String :=
  match form with
  | .functionalTypedDict => head.name
  | _ => Text.Compatibility.ofName head.name

/-- The base that makes a class generic, if it names type variables. -/
def genericBase? (head : ClassHead) : Option Expression :=
  if head.params.isEmpty then none
  else
    let params := head.params.map fun n =>
      Expression.path ((n.splitOn ".").map Text.Compatibility.ofName)
    some (.subscript (.path ["typing", "Generic"]) params)

/-- The bases of a class statement, as they are written. -/
def writtenBases (head : ClassHead) (form : ClassForm) : List Expression :=
  let named := if !head.bases.isEmpty then head.bases else match form with
    | .model _ => [.path ["pydantic", "BaseModel"]]
    | .enumeration _ => [.path ["enum", "Enum"]]
    | .namedTuple => [.path ["typing", "NamedTuple"]]
    | .typedDict _ => [.path ["typing", "TypedDict"]]
    | _ => []
  named ++ head.genericBase?.toList

end ClassHead

/-- The kind of a class that is created in a way. -/
def ClassKind.ofMetaclass : Metaclass → ClassKind
  | .model => .model
  | .enumeration => .enumeration
  | .typedDict => .typedDict
  | _ => .plain

/-- The kind of a class that a base which is a function stands for. -/
def ClassKind.ofFunction? : TypeExpr → Option ClassKind
  | .function "NamedTuple" => some .namedTuple
  | .function "TypedDict" => some .typedDict
  | _ => none

namespace Declaring

/-- What a written expression means at a site. -/
def valueAt (site : Site) (e : Expression) : Declaring TypeExpr :=
  evaluate site.topLevel fun cat => cat.eval site.scope e

/-- The arguments that a row is written as. -/
def rowArguments (row : FieldRow TypeExpr) : Arguments :=
  match row with
  | .field name type description =>
    let described := match description with
      | some (.string text) => [TypeExpr.ofText text]
      | some _ => [.constant .none]
      | none => []
    ⟨[.ofText name, type] ++ described, []⟩
  | .malformed entries type =>
    ⟨[.ofText ""] ++ type.toList ++ List.replicate (entries - 2) (.constant .none), []⟩
  | .single _ => ⟨[], []⟩

/-- Make a row into a field at once. Under the name of the class of fields another value may
stand: what that makes of the row is a row in its turn. -/
def makeRow (site : Site) (row : FieldRow TypeExpr) : Declaring (FieldRow TypeExpr) := do
  let maker ← valueAt site (.name "SchemaField")
  if maker = .builtin .schemaField then
    let _ ← check .registry row.toField
    return row
  else
    let made ← evaluate site.topLevel fun cat => cat.call maker (rowArguments row)
    let cat ← get
    return match cat.items? made with
      | some entries => .ofEntries entries
      | none => .single (cat.kindName made)

/-- Evaluate the rows of a field list. If each is made into a field at once, a malformed one ends
it. -/
def evaluateRows (site : Site) (rows : List (FieldRow Expression)) (eachMade : Bool) :
    Declaring (List (FieldRow TypeExpr)) :=
  rows.mapM fun row => do
    let row : FieldRow TypeExpr ← match row with
      | .field name type description => do
        pure (.field name (← valueAt site type) description)
      | .malformed entries type => do pure (.malformed entries (← type.mapM (valueAt site)))
      | .single kind => pure (.single kind)
    if eachMade then makeRow site row else return row

/-- The library's function of some name, unless another value stands under its name, which is called
then. -/
def calling (site : Site) (path : List String) (args : Arguments) (own : Decorator) :
    Declaring Decorator := do
  let function ← valueAt site (.path path)
  if function = .function (path.getLastD "") then return own
  else return .other (← evaluate site.topLevel fun cat => cat.call function args)

/-- The arguments that spell the text of a description. -/
def descriptionArguments (text : String) : Arguments := ⟨[.ofText text], []⟩

/-- Evaluate what is written before a class statement. -/
def decoratorsOf (site : Site) (form : ClassForm) (head : ClassHead) :
    Declaring (List Decorator) := do
  let described ← head.description.mapM fun text =>
    calling site ["description"] (descriptionArguments text) (.describe text)
  let registered ← head.registered.mapM fun rows => do
    let _ ← valueAt site (.name "schema_fields")
    let rows ← evaluateRows site rows false
    calling site ["schema_fields"] ⟨rows.map fun _ => .group .tuple [], []⟩ (.register rows)
  let made ← match form with
    | .dataclass => do
      let arguments : Arguments := ⟨[], [("kw_only", .ofBool true)]⟩
      pure [← calling site ["dataclasses", "dataclass"] arguments .dataclass]
    | _ => pure []
  -- Evaluated from the first line to the last, and applied from the last to the first.
  return made ++ registered.toList ++ described.toList

/-- Evaluate the head of a class statement. -/
def openClass (site : Site) (form : ClassForm) (head : ClassHead) : Declaring ClassFrame := do
  match form with
  | .functionalTypedDict => do
    let function ← valueAt site (.path ["typing", "TypedDict"])
    if function ≠ .function "TypedDict" then
      let arguments : Arguments := ⟨[.ofText head.name, .group .dict []], []⟩
      let _ ← evaluate site.topLevel fun cat => cat.call function arguments
    return { kind := .typedDict, bases := ⟨[], []⟩, metaclass := .typedDict, dataType := none,
             decorators := [] }
  | _ => do
    let decorators ← decoratorsOf site form head
    let written ← (head.writtenBases form).mapM (valueAt site)
    -- Bases that are functions only say what kind of class is made.
    let special := written.findSome? ClassKind.ofFunction?
    let cat ← get
    let bases ← check .base
      (cat.basesOf (written.filter fun t => (ClassKind.ofFunction? t).isNone))
    let metaclass ← match special with
      | some .typedDict => pure .typedDict
      | some _ => pure .plain
      | none => check .base (cat.metaclassOfBases bases.entries)
    let kind := special.getD (.ofMetaclass metaclass)
    let dataType ← if kind = .enumeration then
        check .base (cat.checkEnumeration (head.className form) bases.classes)
      else pure none
    return { kind, bases, metaclass, dataType, decorators }

/-! ## The body -/

/-- Bind a name in the body of a class. -/
def bindName (frame : ClassFrame) (className : String) (body : ClassBody) (name : String)
    (value : TypeExpr) : Declaring ClassBody := do
  let members ← if frame.kind = .enumeration then
      check id ((← get).bindInEnumeration className body.members name value)
    else pure body.members
  return { body with members, names := OrderedMap.put name value body.names }

/-- The values that are written in the body of a class before its fields. -/
def writtenValues (form : ClassForm) (head : ClassHead) : List (String × TypeExpr) :=
  match form with
  | .enumeration members => members.map fun (n, v) =>
    (mangledName (head.className form) (Text.Compatibility.ofName n), v)
  | _ => []

/-- What a field is bound to that is specified by a call, until the class exists. -/
def specified (form : ClassForm) : Declaring TypeExpr :=
  modifyGet fun cat =>
    let maker := match form with
      | .model _ => "FieldInfo"
      | _ => ClassBody.specifier
    (.object (some cat.serial) (.builtin (.other maker)) [], { cat with serial := cat.serial + 1 })

/-- Run a field in the body of a class. What is given with a field stays when the field is written
again without anything. -/
def runField (site : Site) (form : ClassForm) (head : ClassHead) (frame : ClassFrame)
    (body : ClassBody) (f : FieldDecl) : Declaring ClassBody := do
  let name := head.className form
  match form with
  | .functionalTypedDict =>
    let t ← valueAt site f.type
    return { body with annotations := OrderedMap.put f.name t body.annotations }
  | _ =>
    let facts : List (String × TypeExpr) :=
      [("__module__", .ofText site.module), ("__qualname__", .ofText (site.qualname name))]
    let scopeOf (body : ClassBody) : Scope :=
      ⟨[.names (body.names ++ facts)], [.module site.module], some name, []⟩
    let field := mangledName name (Text.Compatibility.ofName f.name)
    if f.options.isCustomized then
      let path := match form with
        | .model _ => ["pydantic", "Field"]
        | _ => ["dataclasses", "field"]
      let _ ← evaluate none fun cat => cat.eval (scopeOf body) (.path path)
    let body ← if f.options.isCustomized then
        bindName frame name body field (← specified form)
      else if f.options.hasDefault then bindName frame name body field (.constant .none)
      else pure body
    let body := if f.options.hasDefault || f.options.isCustomized then
        { body with options := OrderedMap.put field f.options body.options }
      else body
    -- A deferred annotation stays a text, whose names need not be defined yet.
    let t ← if head.deferred then pure (TypeExpr.ofText f.type.display)
      else evaluate none fun cat => cat.eval (scopeOf body) f.type
    check .body (body.annotate (← get) field t)

/-- Run the body of a class whose inner declarations bound some names. -/
def runBody (site : Site) (form : ClassForm) (head : ClassHead) (frame : ClassFrame)
    (inner : List (String × TypeExpr)) : Declaring ClassBody := do
  let name := head.className form
  let body ← (inner ++ writtenValues form head).foldlM
    (fun body (n, v) => bindName frame name body n v) ClassBody.empty
  head.fields.foldlM (runField site form head frame) body

/-! ## The class -/

/-- What every new class of some bases has. -/
def newInfo (site : Site) (form : ClassForm) (head : ClassHead) (frame : ClassFrame)
    (bases mro : List ClassRef) (layout : ClassRef) (params : List TypeVar) (body : ClassBody) :
    ClassInfo :=
  let name := head.className form
  { name
    qualname := match form with
      | .functionalTypedDict => name
      | _ => site.qualname name
    module := body.ownModule site.module
    home := site.module
    metaclass := frame.metaclass
    bases, mro, layout, params
    annotations := body.annotations
    attributes := body.names
    isGeneric := false
    isSlotted := false
    dataFields := none
    isFrozen := false
    model := none
    members := []
    tupleFields := none
    keys := none }

/-- The next class that is created. -/
def nextClass : Declaring ClassRef := do
  return ⟨.declared (← get).classes.length, []⟩

/-- Add a class to the catalog. -/
def addClass (info : ClassInfo) : Declaring Unit :=
  modify fun cat => { cat with classes := cat.classes ++ [info] }

/-- What is known of the next class, if its bases go together. -/
def prepareInfo (site : Site) (form : ClassForm) (head : ClassHead) (frame : ClassFrame)
    (bases : List ClassRef) (body : ClassBody) : Declaring ClassInfo := do
  let c ← nextClass
  let cat ← get
  let best ← check .base (cat.bestBase bases)
  let isSlotted := frame.kind = .namedTuple
  let slots ← check id (body.slots cat (head.className form) best)
  -- Slots of its own give a class a layout of its own.
  let layout := if slots.isEmpty then cat.layoutFrom c best isSlotted else c
  let info := newInfo site form head frame bases [] layout [] body
  let qualname ← match body.ownQualname cat info.qualname with
    | .error (.qualnameKind kind) =>
      if isSlotted then throw (.qualnameNotText info.name kind)
      else throw (.body (.qualnameKind kind))
    | result => check .body result
  check .body (body.checkCell cat)
  let mro ← check .base (cat.searchOrder c bases)
  return { info with isSlotted, qualname, mro }

/-- What is called when a class is derived from some classes: the first of them that says what decides.
The library's own classes say it by themselves. -/
def derivationHook? (cat : Catalog) : List ClassRef → Option TypeExpr
  | [] => none
  | c :: cs =>
    match c.id with
    | .builtin b => if b = .generic ∨ b = .protocol then none else derivationHook? cat cs
    | .declared _ =>
      ((cat.info c.id).attributes.lookup "__init_subclass__") <|> derivationHook? cat cs

/-- The type variables of the next class, once its ancestors let it be. -/
def settleParams (form : ClassForm) (frame : ClassFrame) (info : ClassInfo) :
    Declaring (List TypeVar) := do
  -- A hook of an ancestor runs in place of the library's, which alone settles variables.
  if let some hook := derivationHook? (← get) info.mro.tail then
    let named := if form.hasKeyword then [("total", TypeExpr.ofBool false)] else []
    let _ ← evaluate none fun cat => cat.call hook ⟨[], named⟩
    return []
  check .base ((← get).checkAncestors info.name info.qualname info.home info.mro frame.bases
    frame.metaclass form.hasKeyword)

/-- Create a plain class. -/
def createPlain (site : Site) (form : ClassForm) (head : ClassHead) (frame : ClassFrame)
    (body : ClassBody) : Declaring Unit := do
  check .base ((← get).checkEntries frame.bases.entries form.hasKeyword)
  let info ← prepareInfo site form head frame frame.bases.classes body
  addClass { info with params := ← settleParams form frame info }

/-- Create a named tuple. -/
def createNamedTuple (site : Site) (form : ClassForm) (head : ClassHead) (frame : ClassFrame)
    (body : ClassBody) : Declaring Unit := do
  let fields := body.annotations.map fun (name, _) =>
    (name, (body.names.lookup name).isSome || Catalog.statedNames.contains name)
  check .body (Catalog.checkTupleOrder fields)
  if frame.bases.entries.any (· ≠ .builtin .generic) then throw (.base .notNamedTuple)
  let annotations ← evaluate none fun cat => cat.tupleAnnotations body.annotations
  check .body (Catalog.checkTupleNames (fields.map Prod.fst) (body.names.map Prod.fst))
  -- The names of fields stand for their places from now on; defaults are told apart from them.
  let readers := fields.zipIdx.map fun ((name, _), i) => (name, TypeExpr.fieldReader i)
  let others := body.names.filter fun (name, _) => (fields.lookup name).isNone
  let bases := .builtin .tuple :: frame.bases.classes
  let info ← prepareInfo site form head frame bases
    { body with annotations, names := readers ++ others }
  addClass { info with
    params := ← settleParams form frame info
    isGeneric := bases.contains (.builtin .generic)
    attributes := info.attributes ++ Catalog.tupleFacts fields body.names
    tupleFields := some fields }

/-- Create a typed dictionary. -/
def createTypedDict (site : Site) (form : ClassForm) (head : ClassHead) (frame : ClassFrame)
    (body : ClassBody) : Declaring Unit := do
  let cat ← get
  let given := frame.bases.classes
  let isDictionary (t : TypeExpr) : Bool :=
    t.asClass?.any fun b => cat.isTypedDict b || b = .builtin .generic
  if !frame.bases.entries.all isDictionary then throw (.base .notTypedDict)
  let generic : List ClassRef :=
    if given.any fun b => cat.derives b .generic then [.builtin .generic] else []
  -- The bases only lend their keys: the class itself is derived from `dict`.
  let info ← prepareInfo site form head frame (generic ++ [.builtin .dict]) body
  let params ← settleParams form frame info
  evaluate none fun cat => cat.checkTable body.names
  let own ← evaluate none fun cat => cat.keyAnnotations info.home body.annotations
  let isTotal := match form with
    | .typedDict isTotal => isTotal
    | _ => true
  addClass { info with
    params
    annotations := OrderedMap.ofList (cat.inheritedKeys given ++ own)
    keys := some (cat.keyTable isTotal given own) }

/-- Create an enumeration. -/
def createEnumeration (site : Site) (form : ClassForm) (head : ClassHead) (frame : ClassFrame)
    (body : ClassBody) : Declaring Unit := do
  let cat ← get
  let bound := body.members
  if bound.members.contains "mro" then throw (.body (.memberName "mro"))
  let info ← prepareInfo site form head frame frame.bases.classes body
  let c ← nextClass
  let table ← evaluate none fun cat =>
    cat.enumerationMembers c.id frame.bases.classes info.mro frame.dataType bound
  let params ← settleParams form frame info
  check id (cat.checkMemberOrder (info.mro.contains (.builtin .flag)) table bound.order)
  if frame.dataType.isNone && frame.bases.classes.contains (.builtin .reprEnum) then
    throw (.base .withoutDataType)
  addClass { info with
    params
    attributes := Catalog.EnumerationBody.attributes bound table
    members := table.names }

/-- The type variables of a model: its own, or else those of the model it is derived from. -/
def modelVariables (name : String) (frame : ClassFrame) (mro : List ClassRef)
    (own : List TypeVar) : Declaring (List TypeVar) := do
  let cat ← get
  let inherited := ((mro.tail.find? cat.isModel).map cat.modelParams).getD []
  let params := if own.isEmpty then inherited else own
  if inherited.all params.contains then return params
  let all := inherited ++ params.filter fun v => !inherited.contains v
  let bases := frame.bases.classes
  let hint := if bases.contains (.builtin .generic) then none
    else some (name, bases.map cat.nameOf)
  throw (.base (.unlistedModelVariables (all.map Catalog.displayVar) hint))

/-- Whether a value that the body of a model binds is a class that was declared in that body. -/
def isInnerClass (site : Site) (qualname : String) (cat : Catalog) (value : TypeExpr) : Bool :=
  value.asClass?.any fun c =>
    cat.moduleOf c = some site.module && (cat.qualnameOf c).startsWith (qualname ++ ".")

/-- Whether a value that the body of a model binds is one that may stand anywhere. -/
def isIgnoredValue : TypeExpr → Bool
  | .function name => BuiltinName.isSpelledOut name
  | _ => false

/-- Whether a name that the body of a model binds is private to it: the class has no such
attribute. -/
def isPrivateValue (isInner : TypeExpr → Bool) (body : ClassBody) (name : String)
    (value : TypeExpr) : Bool :=
  name.startsWith "_" && !name.startsWith "__" && !isInner value && !isIgnoredValue value &&
    !(body.annotations.lookup name).any TypeExpr.isClassVariable

/-- Check a name that the body of a model binds: other values than classes declared there need an
annotation. -/
def checkModelName (isInner : TypeExpr → Bool) (cat : Catalog) (bases : List ClassRef)
    (body : ClassBody) (name : String) (value : TypeExpr) : Except BodyFault Unit :=
  let isVariable := bases.any fun b => (cat.info b.id).model.any (·.unfielded.contains name)
  let fields := (cat.inheritedFields bases).toOption.getD []
  if isInner value || isIgnoredValue value || name.startsWith "_" || name = "model_config" ||
      isVariable || (body.annotations.lookup name).isSome then .ok ()
  else if (fields.lookup name).isSome then .error (.overriddenField name)
  else .error (.unannotated name (cat.display value))

/-- Check what the body of a model binds. -/
def checkModelBody (site : Site) (form : ClassForm) (head : ClassHead) (bases : List ClassRef)
    (body : ClassBody) : Declaring Unit := do
  let isConfigured := match form with
    | .model _ => true
    | _ => false
  let cat ← get
  if isConfigured && (body.names.lookup "Config").any cat.isTrue then
    throw (.body .configuredTwice)
  if (body.annotations.lookup "__root__" <|> body.names.lookup "__root__").isSome then
    throw (.body .rootField)
  let isInner := isInnerClass site (site.qualname (head.className form)) cat
  check .body (body.names.forM fun (name, value) =>
    checkModelName isInner cat bases body name value)
  match body.options.find? fun (name, o) => o.isCustomized && name.startsWith "_" with
  | some (name, _) => throw (.body (.underscoredModelField name))
  | none => pure ()

/-- The texts that no name of a field may start with that is the name of a member. -/
def protectedStarts : List String := ["model_validate", "model_dump"]

/-- The text of what a base has under a protected name, if it has it and no such field. -/
def protectedMember? (cat : Catalog) (base : ClassRef) (name : String) : Option String :=
  if (((cat.recordedFields? base).getD []).any fun f => f.name = name) then none
  else match cat.attribute? base name with
    | some t => some (cat.display t)
    | none =>
      if !cat.isModel base || !Catalog.modelMembers.contains name then none
      else if name.startsWith "model_validate" then
        some ("<bound method BaseModel." ++ name ++ " of " ++ cat.display base.toExpr ++ ">")
      else some ("<function BaseModel." ++ name ++ ">")

/-- Check an annotation of a model. -/
def checkModelField (cat : Catalog) (bases : List ClassRef)
    (a : Catalog.ModelAnnotation) : Except BodyFault Unit := do
  match protectedStarts.find? (a.name.startsWith ·) with
  | some start =>
    match bases.findSome? fun b => protectedMember? cat b a.name with
    | some shown => throw (.protectedField a.name shown start)
    | none => pure ()
  | none => pure ()
  if !a.type.isClassVariable then
    match a.type.inspect.qualifiers.findSome? TypeExpr.Qualifier.refused? with
    | some qualifier => throw (.qualified (cat.label a.type) qualifier)
    | none => pure ()

/-- Create a model. -/
def createModel (site : Site) (form : ClassForm) (head : ClassHead) (frame : ClassFrame)
    (body : ClassBody) : Declaring Unit := do
  let bases := frame.bases.classes
  checkModelBody site form head bases body
  let isInner := isInnerClass site (site.qualname (head.className form)) (← get)
  let names := body.names.filter fun (name, value) => !isPrivateValue isInner body name value
  let info ← prepareInfo site form head frame bases { body with names }
  let own ← settleParams form frame info
  let params ← modelVariables info.name frame info.mro own
  let cat ← get
  let upperAliases := (match form with
    | .model upper => upper
    | _ => false) || bases.any cat.hasUpperAliases
  let surroundings := if site.owner.isSome then site.names else []
  -- The class exists before its annotations are read, since they may mention it.
  let c ← nextClass
  addClass { info with
    params, model := some { fields := [], upperAliases, surroundings, unfielded := [] } }
  let annotations ← evaluate none fun cat => cat.modelAnnotations c surroundings
  let cat ← get
  check .body (annotations.forM fun a => checkModelField cat bases a)
  let inherited ← check .evaluation (cat.inheritedFields bases)
  let options := body.options
  let fields := cat.fieldsOfAnnotations c upperAliases inherited options annotations
  let unfielded := (annotations.map (·.name)).filter fun name => !fields.any (·.name = name)
  let inheritedVariables := bases.flatMap fun b =>
    ((cat.info b.id).model.map (·.unfielded)).getD []
  modify fun cat => (cat.setFields c fields).updateInfo c.id fun i =>
    { i with
      -- What stands under the name of a field is its value, and no attribute.
      attributes := i.attributes.filter fun (name, _) => !fields.any (·.name = name)
      model := i.model.map fun m => { m with unfielded := inheritedVariables ++ unfielded } }

/-- Do to a class what is written before its statement. Its name is bound to what comes of it. -/
def decorate (c : ClassRef) (options : List (String × FieldOptions)) (t : TypeExpr) :
    Decorator → Declaring TypeExpr
  | .describe text => do
    set (← check .registry ((← get).describe t text))
    return t
  | .register rows => do
    set (← check .registry ((← get).register t rows))
    return t
  | .dataclass => do
    let fields ← check id ((← get).dataFieldsOf c options)
    modify fun cat => cat.updateInfo c.id fun i => { i with
      dataFields := some fields
      -- What specifies a field gives way to its value, or goes if there is none.
      attributes := i.attributes.filterMap fun (name, value) =>
        if !ClassBody.isSpecified value then some (name, value)
        else if (options.lookup name).any (·.hasDefault) then some (name, .constant .none)
        else none }
    return t
  | .other function => evaluate none fun cat => cat.call function ⟨[t], []⟩

/-- Create a class from its evaluated head and from what its body holds. What its name is bound to is
returned beside it. -/
def closeClass (site : Site) (form : ClassForm) (head : ClassHead) (frame : ClassFrame)
    (inner : List (String × TypeExpr)) : Declaring (ClassRef × TypeExpr) := do
  let body ← runBody site form head frame inner
  let c ← nextClass
  match frame.kind with
  | .plain => createPlain site form head frame body
  | .namedTuple => createNamedTuple site form head frame body
  | .typedDict => createTypedDict site form head frame body
  | .enumeration => createEnumeration site form head frame body
  | .model => createModel site form head frame body
  return (c, ← frame.decorators.foldlM (decorate c body.options) c.toExpr)

end Declaring

end TypeSchema
