import TypeSchema.Catalog.Display
/-!
# Descriptions and field lists attached to classes

Two registries attach things to classes: a description, and a list of fields that replaces
whatever the class declares. The last call for a class counts, and no call is seen by
another class, be it derived or a base.

A registry holds its keys weakly, so only what can be referred to weakly may be one; besides
classes these are most other type expressions, but no plain values.

A field list is registered from *rows*. A row with too few or too many entries is refused,
and then nothing is stored.
-/

namespace TypeSchema

/-- A row of a field list whose type is `τ`. -/
inductive FieldRow (τ : Type) where
  | field (name : String) (type : τ) (description : Option Json)
  /-- A row with a number of entries that no field has, and its type if it has one. -/
  | malformed (entries : Nat) (type : Option τ)
  /-- A value of a kind that has no entries. -/
  | single (kind : String)
  deriving Inhabited, Repr, DecidableEq

/-- Why something is not registered. -/
inductive RegistryFault where
  /-- A row with a wrong number of entries. -/
  | malformedRow (entries : Nat)
  /-- A value without entries in the place of a row. -/
  | notARow (kind : String)
  /-- A value of a kind that cannot be referred to weakly. -/
  | notReferable (kind : String)
  /-- A value that may change. -/
  | changing (kind : String)
  deriving DecidableEq, Repr

/-- The text of a registry fault. -/
def RegistryFault.message : RegistryFault → String
  | malformedRow entries =>
    if entries = 0 then
      "SchemaField.__init__() missing 2 required positional arguments: 'name' and 'type'"
    else if entries = 1 then
      "SchemaField.__init__() missing 1 required positional argument: 'type'"
    else
      "SchemaField.__init__() takes from 3 to 4 positional arguments but " ++
        toString (entries + 1) ++ " were given"
  | notARow kind =>
    "schema_forge.schema.introspection.SchemaField() argument after * must be an iterable, not " ++
      kind
  | notReferable kind => "cannot create weak reference to " ++ listed [kind] ++ " object"
  | changing kind => "unhashable type: " ++ listed [kind]

/-- The field of a row, or why it is none. -/
def FieldRow.toField : FieldRow TypeExpr → Except RegistryFault SchemaField
  | .field name type description => .ok { name, type, description }
  | .malformed entries _ => .error (.malformedRow entries)
  | .single kind => .error (.notARow kind)

/-- The row of some entries. -/
def FieldRow.ofEntries (entries : List TypeExpr) : FieldRow TypeExpr :=
  match entries with
  | [.constant (.string name), type] => .field name type none
  | [.constant (.string name), type, .constant (.string text)] =>
    .field name type (some (.string text))
  | [.constant (.string name), type, _] => .field name type none
  | entries => .malformed entries.length entries[1]?

namespace Catalog

/-- What stands in for the description of universally unique identifiers. -/
def uuidDescription : String := "String in a UUID format"

variable (cat : Catalog)

/-- Whether the instances of a class differ in size, and therefore cannot be referred to weakly. -/
def hasVariableInstances (id : ClassId) : Bool :=
  [Builtin.int, .tuple, .bytes].any (cat.derives ⟨id, []⟩)

/-- Whether a value can be referred to weakly. -/
def isReferable : TypeExpr → Bool
  | .constant _ | .initVar _ _ | .union .bars _ | .fieldReader _ => false
  | .group g _ => g = .set
  | .member id _ _ => !cat.hasVariableInstances id
  | .object _ id _ => id ≠ .builtin .slice && !cat.hasVariableInstances id
  | _ => true

/-- Check that a value may be a key of a registry. -/
def checkKey (t : TypeExpr) : Except RegistryFault Unit :=
  if !cat.isReferable t then .error (.notReferable (cat.kindName t))
  else match t.changingPart? with
    | some part => .error (.changing (cat.kindName part))
    | none => .ok ()

/-- The same registry with another value for a key. -/
def putSame {α : Type} (t : TypeExpr) (value : α) : List (TypeExpr × α) → List (TypeExpr × α)
  | [] => [(t, value)]
  | (key, old) :: rest =>
    if key.same t then (key, value) :: rest else (key, old) :: putSame t value rest

/-- Attach a description to a class, or to another value that can be referred to. -/
def describe (t : TypeExpr) (text : String) : Except RegistryFault Catalog := do
  cat.checkKey t
  return { cat with descriptions := putSame t text cat.descriptions }

/-- The description attached to a class or another value. -/
def typeDescription? (t : TypeExpr) : Option String :=
  if t = .builtin .uuid then some uuidDescription
  else cat.descriptions.findSome? fun (key, text) => if key.same t then some text else none

/-- Attach a field list to a class; the first malformed row refuses the whole list. The list of a
value that is no class is never asked for. -/
def register (t : TypeExpr) (rows : List (FieldRow TypeExpr)) :
    Except RegistryFault Catalog := do
  let fields ← rows.mapM FieldRow.toField
  cat.checkKey t
  return match t.asClass? with
    | some c => { cat with registered := OrderedMap.put c fields cat.registered }
    | none => cat

/-- The field list attached to a class. -/
def registered? (c : ClassRef) : Option (List SchemaField) :=
  OrderedMap.find? c cat.registered

end Catalog

end TypeSchema
