import TypeSchema.Node.Basic
/-!
# Nodes as documents

`Node.render` writes a node as the JSON Schema document it stands for. In *strict* mode every
object lists all its properties as required and forbids others, whatever the node says.

Only known kinds are written. A kind that is derived from a primitive kind, at whatever
distance, is unknown, while a node of a kind derived from any other kind is written like that
kind (`isExtensible`). The first unknown node, in the order of the walk, is the failure of the
whole.
-/

namespace TypeSchema.Node

/-- What a reference starts with: the place where the root keeps its definitions. -/
def referenceStart : String := "#/$defs/"

/-- The entry for a description, if there is one. -/
def descriptionEntry : Option Json → List (String × Json)
  | some value => [("description", value)]
  | none => []

/-- The entry for the properties that are required. -/
def requiredEntry (strict : Bool) (names : List String) (required : Option (List String)) :
    List (String × Json) :=
  match if strict then some names else required with
  | some listed => [("required", .ofStrings listed)]
  | none => []

/-- The entry that forbids other properties. -/
def closedEntry (strict : Bool) : List (String × Json) :=
  if strict then [("additionalProperties", .bool false)] else []

/-- The entry for rendered definitions; no definitions have no entry. -/
def definitionsEntry : List (String × Json) → List (String × Json)
  | [] => []
  | rendered => [("$defs", .object rendered)]

/-- Whether nodes of the kinds that are derived from the kind of a node are written like it. -/
def isExtensible : Node → Bool
  | leaf _ _ | abstract _ _ | foreign _ => false
  | derived _ _ base => base.isExtensible
  | enum _ _ | array _ _ _ | object _ _ _ _ | reference _ | anyOf _ _ | custom _ => true

mutual

/-- The document of a node, or the first node of an unknown kind. -/
def render (strict : Bool) : Node → Except Node Json
  | leaf k description =>
    .ok (.object (("type", .string k.name) :: descriptionEntry description))
  | enum values description =>
    .ok (.object ((("type", .string "string") :: descriptionEntry description) ++
      [("enum", .ofStrings values)]))
  | array items description definitions => do
    let body ← render strict items
    let rendered ← renderDefinitions strict definitions
    return .object ((("type", .string "array") :: descriptionEntry description) ++
      [("items", body)] ++ definitionsEntry rendered)
  | object properties required description definitions => do
    let body ← renderValues strict properties
    let rendered ← renderDefinitions strict definitions
    return .object ((("type", .string "object") :: descriptionEntry description) ++
      [("properties", .object body)] ++
      requiredEntry strict (properties.map Prod.fst) required ++
      closedEntry strict ++ definitionsEntry rendered)
  | reference none => .ok (.object [])
  | reference (some id) => .ok (.object [("$ref", .string (referenceStart ++ id))])
  | anyOf alternatives description => do
    let bodies ← renderAll strict alternatives
    return .object (descriptionEntry description ++ [("anyOf", .array bodies)])
  | custom rendered => .ok (.object rendered)
  | derived occurrence name base =>
    if base.isExtensible then render strict base else .error (.derived occurrence name base)
  | abstract occurrence name => .error (.abstract occurrence name)
  | foreign value => .error (.foreign value)

/-- The documents of some nodes. -/
def renderAll (strict : Bool) : List Node → Except Node (List Json)
  | [] => .ok []
  | n :: ns => do
    let body ← render strict n
    let bodies ← renderAll strict ns
    return body :: bodies

/-- The documents of the values of a map, under the same keys. -/
def renderValues (strict : Bool) : List (String × Node) → Except Node (List (String × Json))
  | [] => .ok []
  | (key, n) :: rest => do
    let body ← render strict n
    let bodies ← renderValues strict rest
    return (key, body) :: bodies

/-- The documents of definitions. -/
def renderDefinitions (strict : Bool) :
    Option (List (String × Node)) → Except Node (List (String × Json))
  | none => .ok []
  | some definitions => renderValues strict definitions

end

end TypeSchema.Node
