import TypeSchema.Catalog.Classify
import TypeSchema.Catalog.Model
import TypeSchema.Catalog.Registry
/-!
# The data members of a class

`Catalog.fieldsOf` lists the described data members of a class. The first source that
applies counts:

1. a field list registered for the class;
2. the fields of a model, under the names they are published by;
3. the stored fields of a dataclass, with the types their resolved annotations have;
4. the resolved annotations, without those that name no stored member.
-/

namespace TypeSchema.Catalog

variable (cat : Catalog)

/-- A field of a model as a data member. -/
def ofModelField (f : ModelField) : SchemaField where
  name := match f.publishedAs with
    -- An empty alias is as good as none.
    | some a => if a = "" then f.name else a
    | none => f.name
  type := f.type
  description := f.description <|> (TypeExpr.firstDescription? f.metadata).map .string

/-- Whether an annotation names a member that is stored in every instance. -/
def isStored (name : String) (t : TypeExpr) : Bool :=
  -- Inside `Annotated` only a variable of the class is recognized.
  let bare := match t with
    | .annotated inner _ => inner
    | t => t
  !name.startsWith "__" &&
    match t, bare with
    | .initVar _ _, _ | .cls (.builtin .initVar) [], _ => false
    | _, .form .classVar | _, .subscript (.form .classVar) _ => false
    | _, _ => true

/-- The data members of a class, in the order in which they are declared. -/
def fieldsOf (c : ClassRef) : Except EvalError (List SchemaField) :=
  match cat.registered? c with
  | some fields => .ok fields
  | none =>
    if cat.isModel c then do return (← cat.modelFields c).map ofModelField
    else match cat.dataclassFields? c with
      | some fields => do
        let hints ← cat.hints c
        return (fields.filter (·.role = .stored)).map fun f =>
          { name := f.name
            -- A field without a resolved annotation keeps its type as it was written.
            type := (OrderedMap.find? f.name hints).getD f.written
            description := f.description }
      | none => do
        let hints ← cat.hints c
        return (hints.filter fun (name, t) => isStored name t).map fun (name, type) =>
          { name, type, description := none }

end TypeSchema.Catalog
