import TypeSchema.Node.Basic
/-!
# Dumps of nodes

A dump shows everything a node holds as one JSON document, with the maps written as lists of
pairs. It tells apart what the rendered document may not, such as no definitions and empty
ones.
-/

namespace TypeSchema.Node

/-- A list of pairs. -/
def pairs (entries : List (String × Json)) : Json :=
  .array (entries.map fun (key, value) => .array [.string key, value])

/-- A list of texts or `null`. -/
def stringsOrNull : Option (List String) → Json
  | some names => .ofStrings names
  | none => .null

mutual

/-- The entries of a dump after the kind. -/
def dumpEntries : Node → List (String × Json)
  | leaf _ description => [("description", description.getD .null)]
  | enum values description =>
    [("values", .ofStrings values), ("description", description.getD .null)]
  | array items description definitions =>
    [("items", dump items), ("description", description.getD .null),
     ("definitions", dumpDefinitions definitions)]
  | object properties required description definitions =>
    [("properties", pairs (dumpValues properties)), ("required", stringsOrNull required),
     ("description", description.getD .null), ("definitions", dumpDefinitions definitions)]
  | reference id => [("ref_id", .ofString? id)]
  | anyOf alternatives description =>
    [("alternatives", .array (dumpAll alternatives)), ("description", description.getD .null)]
  | custom rendered => [("rendered", .object rendered)]
  | derived _ _ base => dumpEntries base
  | abstract _ _ => []
  | foreign _ => []

/-- The dump of a node. -/
def dump (n : Node) : Json :=
  match n with
  | foreign value => .object [("raw", value)]
  | n => .object (("kind", .string n.kind) :: dumpEntries n)

/-- The dumps of some nodes. -/
def dumpAll : List Node → List Json
  | [] => []
  | n :: ns => dump n :: dumpAll ns

/-- The dumps of the values of a map. -/
def dumpValues : List (String × Node) → List (String × Json)
  | [] => []
  | (key, n) :: rest => (key, dump n) :: dumpValues rest

/-- The dump of definitions. -/
def dumpDefinitions : Option (List (String × Node)) → Json
  | some definitions => pairs (dumpValues definitions)
  | none => .null

end

end TypeSchema.Node
