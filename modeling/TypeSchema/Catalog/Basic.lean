import TypeSchema.Json.Basic
import TypeSchema.Linearization
import TypeSchema.OrderedMap
import TypeSchema.Typing.Library
import TypeSchema.Typing.Union
/-!
# Catalogs of classes

A `Catalog` holds what a program has declared: its classes, the names that are bound in its
modules, the modules themselves, and two registries that attach descriptions and field
lists to classes. It only ever grows: declaring something returns a new catalog.

A class is described by a `ClassInfo`. Besides its annotations it may have more to say of its data
members, each computed when the class was created:

* a *dataclass* has a list of stored fields;
* a *model* validates its data; its fields were resolved, as far as possible, when it was
  created, and they are resolved further only on request;
* an *enumeration* has members;
* a *named tuple* has fields that it was called with.

An annotation that is kept as text is a plain text.
-/

namespace TypeSchema

/-- The identity of a class: its statement and, for a generic data model, the arguments. -/
structure ClassRef where
  id : ClassId
  args : List TypeExpr
  deriving DecidableEq, Repr, Inhabited

namespace ClassRef

/-- A built-in class. -/
def builtin (b : Builtin) : ClassRef := ⟨.builtin b, []⟩

/-- The class as a type expression. -/
def toExpr (c : ClassRef) : TypeExpr := .cls c.id c.args

end ClassRef

namespace TypeExpr

/-- The class that a type expression is, if it is one. -/
def asClass? : TypeExpr → Option ClassRef
  | .cls id args => some ⟨id, args⟩
  | _ => none

@[simp] theorem asClass?_toExpr (c : ClassRef) : c.toExpr.asClass? = some c := rfl

theorem eq_toExpr_of_asClass? {t : TypeExpr} {c : ClassRef} (h : t.asClass? = some c) :
    t = c.toExpr := by
  cases t <;> simp_all [asClass?, ClassRef.toExpr]
  subst h
  simp

end TypeExpr

theorem ClassRef.toExpr_inj {c c' : ClassRef} (h : c.toExpr = c'.toExpr) : c = c' := by
  have hclass := congrArg TypeExpr.asClass? h
  simpa using hclass

/-- What an entry in the field list of a dataclass stands for. -/
inductive FieldRole where
  /-- A stored field. -/
  | stored
  /-- A variable of the class or an argument of its initialiser: not stored. -/
  | unstored
  deriving DecidableEq, Repr, Inhabited

/-- An entry in the field list of a dataclass. -/
structure DataField where
  name : String
  written : TypeExpr
  description : Option Json
  role : FieldRole
  hasDefault : Bool
  deriving Inhabited, Repr

/-- A field of a model. -/
structure ModelField where
  name : String
  /-- The name under which the field is published, if it differs. -/
  publishedAs : Option String
  /-- The field's type without its outermost annotations. -/
  type : TypeExpr
  /-- What the outermost annotations attached. -/
  metadata : List TypeExpr
  /-- The description given with the field. -/
  description : Option Json
  hasDefault : Bool
  /-- What is left to resolve: the annotation as it was written. -/
  pending : Option TypeExpr
  deriving Inhabited, Repr

/-- What a model knows of its data. -/
structure ModelInfo where
  fields : List ModelField
  /-- Whether fields without an alias are published in upper case. -/
  upperAliases : Bool
  /-- The names of the class in whose body the model was declared, as they were then. -/
  surroundings : List (String × TypeExpr)
  /-- The names that are annotated and no fields. -/
  unfielded : List String
  deriving Inhabited, Repr

/-- What is known of a generic model at arguments. -/
structure ModelInstance where
  /-- Its fields from the moment on at which it was first mentioned. -/
  fields : List ModelField
  /-- The module that it names as its own. -/
  module : Option String
  deriving Inhabited, Repr

/-- Brackets after something of the `typing` module that were written once. -/
structure WrittenBrackets where
  head : TypeExpr
  key : TypeExpr
  meaning : TypeExpr
  deriving Inhabited, Repr

/-- Which keys of a typed dictionary have to be there. A key may be listed twice, by a typed dictionary
and by one that it was derived from. -/
structure KeyTable where
  /-- Whether the keys of the class itself are required unless they say otherwise. -/
  isTotal : Bool
  required : List String
  optional : List String
  deriving Inhabited, Repr

/-- What is known of a class. -/
structure ClassInfo where
  name : String
  qualname : String
  /-- The module that the class names as its own; it may name none. -/
  module : Option String
  /-- The module it was declared in. -/
  home : String
  metaclass : Metaclass
  /-- The classes it was derived from directly. -/
  bases : List ClassRef
  /-- The classes searched for attributes, the class itself first. -/
  mro : List ClassRef
  /-- The class whose layout its instances have. -/
  layout : ClassRef
  /-- The annotations in the class's own body, in order. -/
  annotations : List (String × TypeExpr)
  /-- The other names in the class's own body. -/
  attributes : List (String × TypeExpr)
  /-- The type variables of a generic class. -/
  params : List TypeVar
  /-- Whether the class itself makes its arguments those of a generic class. -/
  isGeneric : Bool
  /-- Whether its instances have no attributes but those of its ancestors' instances. -/
  isSlotted : Bool
  dataFields : Option (List DataField)
  /-- Whether instances of a dataclass refuse changes. -/
  isFrozen : Bool
  model : Option ModelInfo
  /-- The names of the members of an enumeration. -/
  members : List String
  /-- The fields of a named tuple, and whether they may be left out. -/
  tupleFields : Option (List (String × Bool))
  /-- The keys of a typed dictionary. -/
  keys : Option KeyTable
  deriving Inhabited, Repr

/-- A described data member of a class, as the schema compiler sees it. -/
structure SchemaField where
  name : String
  type : TypeExpr
  /-- What is given as the description. Nothing checks that it is a text. -/
  description : Option Json
  deriving DecidableEq, Repr, Inhabited

/-- Everything that a program has declared. -/
structure Catalog where
  /-- The declared classes in the order of their statements. -/
  classes : List ClassInfo
  /-- The generic models that were given arguments. -/
  instances : List (ClassRef × ModelInstance)
  /-- What brackets of the `typing` module meant that were written before. -/
  written : List WrittenBrackets
  /-- The names bound in every module, the newest binding first. -/
  names : List (String × TypeExpr)
  /-- The names that a single module has besides. -/
  ownNames : List ((String × String) × TypeExpr)
  /-- The modules of the program. -/
  modules : List String
  /-- What the types stand for that are types of their own and no classes. -/
  supertypes : List (TypeVar × TypeExpr)
  /-- Descriptions attached to classes and other values. -/
  descriptions : List (TypeExpr × String)
  /-- Field lists registered for classes. -/
  registered : List (ClassRef × List SchemaField)
  /-- How many objects were made that are told apart by a number. -/
  serial : Nat
  deriving Inhabited, Repr

namespace Catalog

/-- The module that every program has. -/
def mainModule : String := "app.models"

/-- The catalog of a program that declares nothing. -/
def empty : Catalog :=
  { classes := [], instances := [], written := [], names := [], ownNames := [],
    modules := [mainModule], supertypes := [], descriptions := [], registered := [], serial := 0 }

/-- The fields of the class that describes fields. -/
def schemaFieldFields : List DataField :=
  let field (name : String) (t : TypeExpr) (hasDefault : Bool) : DataField :=
    { name, written := t, description := none, role := .stored, hasDefault }
  [field "name" (.builtin .str) false, field "type" (.builtin .typingAny) false,
   field "description" (.unionOf .named [.builtin .str, .noneType]) true]

/-- What is known of a built-in class. Only one of them has annotations. -/
def builtinInfo (b : Builtin) : ClassInfo where
  name := b.name
  qualname := b.name
  module := some b.moduleName
  home := b.moduleName
  metaclass := b.metaclass
  bases := b.bases.map ClassRef.builtin
  layout := .builtin b.layout
  mro := (b :: b.ancestors).map .builtin
  annotations :=
    if b = .schemaField then schemaFieldFields.map fun f => (f.name, f.written) else []
  attributes := if b = .schemaField then [("description", .constant .none)] else []
  params := []
  isGeneric := b = .generic
  isSlotted := b.isVariable
  dataFields := if b = .schemaField then some schemaFieldFields else none
  isFrozen := b = .schemaField
  model := none
  members := []
  tupleFields := none
  keys := none

variable (cat : Catalog)

/-- What is known of a class statement. -/
def info : ClassId → ClassInfo
  | .builtin b => builtinInfo b
  | .declared i => cat.classes.getD i (builtinInfo .object)

/-- The classes searched for the attributes of a class, itself first. A generic model at
arguments is followed by the generic model. -/
def mro (c : ClassRef) : List ClassRef :=
  let order := (cat.info c.id).mro
  if c.args.isEmpty then order else c :: order

/-- Whether a class is a built-in class or derived from it. -/
def derives (c : ClassRef) (b : Builtin) : Bool :=
  (cat.mro c).contains (.builtin b)

/-- The module that a class names as its own. -/
def moduleOf (c : ClassRef) : Option String :=
  match OrderedMap.find? c cat.instances with
  | some known => known.module
  | none => (cat.info c.id).module

/-- What created a class. -/
def metaclassOf (c : ClassRef) : Metaclass := (cat.info c.id).metaclass

/-- Whether a class is a model. -/
def isModel (c : ClassRef) : Bool := cat.derives c .baseModel

/-- Whether a class is an enumeration. -/
def isEnumeration (c : ClassRef) : Bool := cat.derives c .enum

/-- Whether a class is a typed dictionary. -/
def isTypedDict (c : ClassRef) : Bool := cat.metaclassOf c = .typedDict

/-- The attribute of a class, searched through its ancestors. -/
def attribute? (c : ClassRef) (name : String) : Option TypeExpr :=
  (cat.mro c).findSome? fun d => (cat.info d.id).attributes.lookup name

/-- The field list of the first dataclass among a class and its ancestors. -/
def dataclassFields? (c : ClassRef) : Option (List DataField) :=
  (cat.mro c).findSome? fun d => (cat.info d.id).dataFields

/-- The members of an enumeration with their values. -/
def membersOf (c : ClassRef) : List TypeExpr :=
  let info := cat.info c.id
  info.members.filterMap fun name => info.attributes.lookup name

/-- Replace what is known of a declared class. -/
def updateInfo (id : ClassId) (f : ClassInfo → ClassInfo) : Catalog :=
  match id with
  | .builtin _ => cat
  | .declared i => { cat with classes := cat.classes.modify i f }

/-- Bind a name in the program's modules. -/
def bind (name : String) (value : TypeExpr) : Catalog :=
  { cat with names := (name, value) :: cat.names }

end Catalog

end TypeSchema
