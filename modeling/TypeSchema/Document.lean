import TypeSchema.Compile
import TypeSchema.Node.Render
/-!
# Documents

The two documents that a type has: its JSON Schema, and the envelope in which services that
answer in a given format expect it.
-/

namespace TypeSchema.Catalog

variable (cat : Catalog)

/-- The JSON Schema of a type. -/
def jsonSchema (strict : Bool) (limit : Int) (t : TypeExpr) : Except SchemaError Json := do
  let node ← cat.build limit t
  (node.render strict).mapError .unknownKind

/-- The name of a schema: the given one, or that of the type if it has one. -/
def schemaName (given : Option String) (t : TypeExpr) : String :=
  given.getD (((cat.nameOf? t).filter (· ≠ "")).getD "schema")

/-- The envelope of a schema. -/
def envelope (name : String) (strict : Bool) (schema : Json) : Json :=
  .object
    [("type", .string "json_schema"),
     ("json_schema", .object
       [("name", .string name), ("strict", .bool strict), ("schema", schema)])]

/-- The JSON Schema of a type in its envelope. -/
def responseFormat (name : Option String) (strict : Bool) (limit : Int) (t : TypeExpr) :
    Except SchemaError Json := do
  let schema ← cat.jsonSchema strict limit t
  return envelope (cat.schemaName name t) strict schema

end TypeSchema.Catalog
