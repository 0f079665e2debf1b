import TypeSchema.Declaration.Basic
import TypeSchema.Declaration.Enumeration
import TypeSchema.Evaluation.Scope
/-!
# What the body of a class holds

The names that the body of a class binds become attributes of the class. Some of them say something
of the class itself: which module it names as its own, its qualified name, the attributes that its
instances have room for, and the table of its annotations. What is bound to these names has to
be a value that can say so.
-/

namespace TypeSchema

/-- What the body of a class holds. -/
structure ClassBody where
  /-- The names that are bound, with their values. -/
  names : List (String × TypeExpr)
  /-- What an enumeration makes of these names. -/
  members : EnumerationBody
  annotations : List (String × TypeExpr)
  /-- What is given with the fields besides. -/
  options : List (String × FieldOptions)
  deriving Inhabited, Repr

namespace ClassBody

/-- The body that holds nothing. -/
def empty : ClassBody := ⟨[], .empty, [], []⟩

/-- The class of what a field is bound to that is specified by a call, until it is a field of a
dataclass. -/
def specifier : String := "Field"

/-- Whether a value specifies a field of a dataclass. -/
def isSpecified : TypeExpr → Bool
  | .object _ (.builtin (.other kind)) _ => kind = specifier
  | _ => false

/-- The class of what a name is bound to, by its name, if it is bound. -/
def kindOf? (cat : Catalog) (body : ClassBody) (name : String) : Option String :=
  (body.names.lookup name).map cat.kindName

/-- The body with an annotation added. The table of annotations may be hidden by another value under
its name, and then takes none. -/
def annotate (cat : Catalog) (body : ClassBody) (name : String) (t : TypeExpr) :
    Except BodyFault ClassBody :=
  match body.kindOf? cat "__annotations__" with
  | some kind => .error (.unassignable kind)
  | none => .ok { body with annotations := OrderedMap.put name t body.annotations }

/-! ## Facts about the class -/

/-- The module that a class names as its own, where nothing else is said the one it stands in. -/
def ownModule (body : ClassBody) (module : String) : Option String :=
  match body.names.lookup "__module__" with
  | some t => t.asText?
  | none => some module

/-- The qualified name of a class, where nothing else is said the one that it has by its place. -/
def ownQualname (cat : Catalog) (body : ClassBody) (qualname : String) :
    Except BodyFault String :=
  match (body.names.lookup "__qualname__").bind TypeExpr.asText? with
  | some name => .ok name
  | none =>
    match body.kindOf? cat "__qualname__" with
    | some kind => .error (.qualnameKind kind)
    | none => .ok qualname

/-- The built-in classes whose instances differ in size: they have no room for attributes with names
that are known beforehand. -/
def sizedLayouts : List Builtin := [.int, .tuple, .bytes, .type]

/-- The names of the attributes that the instances have room for, if the body lists them, where the
instances of `base` are the start of the class's own. -/
def slots (cat : Catalog) (body : ClassBody) (className : String) (base : ClassRef) :
    Except DeclareError (List String) := do
  let some value := body.names.lookup "__slots__" | return []
  let items ← match value with
    | .constant (.string _) => pure [value]
    | value => (Eval.value (cat.itemsOf value) cat).mapError .evaluation
  let isSized := sizedLayouts.any fun b => (cat.info base.id).layout = .builtin b
  if isSized && !items.isEmpty then throw (.body (.sizedSlots (cat.bareName base)))
  items.mapM fun t => do
    let some name := t.asText? | throw (.body (.slotKind (cat.kindName t)))
    if !Text.Identifier.isValid name.toList then throw (.body .slotName)
    let name := mangledName className name
    if (body.kindOf? cat name).isSome then throw (.body (.slotTaken name))
    return name

/-- Check that the body does not bind the name under which a class is handed to its functions. -/
def checkCell (cat : Catalog) (body : ClassBody) : Except BodyFault Unit :=
  match body.names.lookup "__classcell__" with
  | some t => .error (.cell (cat.display (cat.classOf t)))
  | none => .ok ()

end ClassBody

end TypeSchema
