import TypeSchema.Catalog.Model
import TypeSchema.Catalog.Registry
import TypeSchema.Json.Basic
/-!
# Declarations

What a program may declare, as it is written: classes of several forms, type variables,
synonyms, and statements that attach something to a class declared before.
-/

namespace TypeSchema

/-- A field in the body of a class. -/
structure FieldDecl where
  name : String
  type : Expression
  options : FieldOptions
  deriving Inhabited, Repr

/-- The forms of a class statement. The form says what a class is derived from that names no
bases, and what else its statement holds. -/
inductive ClassForm where
  | plain
  | dataclass
  /-- A data model; `upperAliases` publishes its fields in upper case. -/
  | model (upperAliases : Bool)
  | namedTuple
  /-- A typed dictionary, with a note if its keys need not all be there. -/
  | typedDict (isTotal : Bool)
  /-- A typed dictionary made by a call, whose keys are any texts. -/
  | functionalTypedDict
  | enumeration (members : List (String × TypeExpr))
  deriving Inhabited, Repr

/-- Whether a class statement has a keyword in its head. -/
def ClassForm.hasKeyword : ClassForm → Bool
  | .typedDict isTotal => !isTotal
  | _ => false

/-- A class statement without the declarations in its body. -/
structure ClassHead where
  name : String
  /-- The module it is written in, if it is named. In the body of a class none counts. -/
  module : Option String
  fields : List FieldDecl
  bases : List Expression
  /-- The type variables of a generic class, by name. -/
  params : List String
  /-- Whether annotations are kept as text. -/
  deferred : Bool
  description : Option String
  registered : Option (List (FieldRow Expression))
  /-- What the class is made to name as its module afterwards. -/
  newModule : Option (Option String)
  /-- What the class is made to name as its qualified name afterwards; it has to name one. -/
  newQualname : Option (Option String)
  deriving Inhabited, Repr

/-- A declaration. -/
inductive Decl where
  | cls (form : ClassForm) (head : ClassHead) (body : List Decl)
  | typeVar (name : String) (module : Option String)
  /-- A name for a type that is a type of its own and no class. -/
  | newType (name : String) (module : Option String) (type : Expression)
  /-- Another name for a type. -/
  | synonym (name : String) (module : Option String) (type : Expression)
  | describe (target : Expression) (text : String)
  /-- Attach a field list; the rows may be made into fields one by one, as they are written. -/
  | register (target : Expression) (rows : List (FieldRow Expression)) (eachMade : Bool)
  /-- Resolve the pending fields of a model. -/
  | rebuild (target : Expression)
  deriving Inhabited, Repr

end TypeSchema
