import TypeSchema.Catalog.Classify
import TypeSchema.Evaluation.Error
import TypeSchema.Node.Basic
/-!
# Errors of schema compilation

Why a type has no schema, or a node no document, and the text that says so. The text of an
error that belongs to a field ends with the place of the field: the qualified name of the
class and the name of the field.
-/

namespace TypeSchema

/-- The place of a type expression: the class that declares it, and the field. -/
structure Location where
  owner : Option TypeExpr
  field : Option String
  deriving DecidableEq, Repr, Inhabited

/-- The place of the root type. -/
def Location.root : Location := ⟨none, none⟩

/-- What keeps a type expression from having a schema. -/
inductive Unresolvable where
  | noAlternative (cause : UnwrapError)
  /-- The items of a tuple have no single type. -/
  | noSingleElement (t : TypeExpr)
  /-- A collection does not say what it holds. -/
  | noElement (t : TypeExpr)
  /-- Something that is no class. -/
  | unsupported (t : TypeExpr)
  /-- An annotation names something that is not defined. -/
  | undefinedName (absence : Absence) (name : String)
  deriving DecidableEq, Repr, Inhabited

/-- Why there is no document for a type or a node. -/
inductive SchemaError where
  | unresolvable (cause : Unresolvable) (location : Location)
  /-- Types nest deeper than the limit. -/
  | tooDeep (limit : Int) (location : Location)
  | nonPositiveLimit (limit : Int)
  /-- An annotation is no type expression. -/
  | unreadable (cause : EvalError)
  /-- A node of a kind that has no document. -/
  | unknownKind (node : Node)
  deriving Inhabited, Repr

namespace Catalog

variable (cat : Catalog)

/-- The text of an unwrapping error. -/
def unwrapMessage : UnwrapError → String
  | .severalAlternatives t => "Union types are not supported: " ++ cat.display t
  | .unconstrained t => "Unconstrained type " ++ cat.display t ++ " has no schema"

/-- What keeps a type expression from having a schema, as text. -/
def unresolvableMessage : Unresolvable → String
  | .noAlternative cause => cat.unwrapMessage cause
  | .noSingleElement t => "Cannot determine a single element type for " ++ cat.display t
  | .noElement t => "Cannot determine the element type of " ++ cat.display t
  | .unsupported t => "Unsupported type expression " ++ cat.display t
  | .undefinedName absence name =>
    "Cannot resolve forward reference: " ++ absence.message name

/-- The name of the class that declares a field, as it stands in texts. -/
def ownerName (owner : TypeExpr) : String :=
  (cat.qualnameOf? owner).getD (cat.display owner)

/-- The place at the end of a text. -/
def locationSuffix (location : Location) : String :=
  match (location.owner.map cat.ownerName).toList ++ location.field.toList with
  | [] => ""
  | parts => " (at " ++ joinWith "." parts ++ ")"

/-- The place at which types nest too deep. -/
def path (location : Location) : String :=
  let owner := (location.owner.bind cat.qualnameOf?).getD "<root>"
  joinWith "." (owner :: location.field.toList)

/-- The text of an error. -/
def errorMessage : SchemaError → String
  | .unresolvable cause location =>
    cat.unresolvableMessage cause ++ cat.locationSuffix location
  | .tooDeep limit location =>
    "Schema nesting exceeds max_depth=" ++ toString limit ++ " at " ++ cat.path location
  | .nonPositiveLimit limit => "max_depth must be positive, got " ++ toString limit
  | .unreadable cause => cause.message
  | .unknownKind n => "Unknown schema node kind: " ++ n.className

end Catalog

end TypeSchema
