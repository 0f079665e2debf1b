import TypeSchema.Json.Basic
import TypeSchema.OrderedMap
/-!
# Schema nodes

A `Node` is a schema before it is written: a tree whose leaves are the primitive kinds and
whose inner nodes are arrays, objects and alternatives. `definitions` hold the schemas that
references point to; the compiler gives them to a root only.

Besides the kinds of the language there are three ways in which a tree may be open to its
users: a `custom` node holds a fragment that is written as it is, a `derived` node belongs to
a kind that was derived from one of the language's own, and an `abstract` node belongs to a
kind of its own. A `foreign` value is no node, and stands where someone put it by mistake.
-/

namespace TypeSchema

/-- The kinds of primitive schemas. -/
inductive LeafKind where
  | string | integer | number | boolean
  deriving DecidableEq, Repr, Inhabited

/-- The name of a primitive kind, in trees and in documents. -/
def LeafKind.name : LeafKind → String
  | string => "string"
  | integer => "integer"
  | number => "number"
  | boolean => "boolean"

/-- A schema node. -/
inductive Node where
  | leaf (kind : LeafKind) (description : Option Json)
  | enum (values : List String) (description : Option Json)
  | array (items : Node) (description : Option Json)
      (definitions : Option (List (String × Node)))
  | object (properties : List (String × Node)) (required : Option (List String))
      (description : Option Json) (definitions : Option (List (String × Node)))
  | reference (id : Option String)
  | anyOf (alternatives : List Node) (description : Option Json)
  /-- A fragment that is written as it is. -/
  | custom (rendered : List (String × Json))
  /-- A node of a kind called `className` that is derived from the kind of `base`. Kinds
  are told apart by the number of their occurrence. -/
  | derived (occurrence : Nat) (className : String) (base : Node)
  /-- A node of a kind of its own, without parts. -/
  | abstract (occurrence : Nat) (className : String)
  /-- A plain value where a node is expected. -/
  | foreign (value : Json)
  deriving Inhabited, Repr

namespace Node

/-- The name of a node's kind. A derived kind has the name of the kind it is derived from. -/
def kind : Node → String
  | leaf k _ => k.name
  | enum _ _ => "enum"
  | array _ _ _ => "array"
  | object _ _ _ _ => "object"
  | reference _ => "reference"
  | anyOf _ _ => "any_of"
  | custom _ => "custom"
  | derived _ _ base => base.kind
  | abstract _ _ => "abstract"
  | foreign _ => "foreign"

/-- The name of the class of a plain value. -/
def valueClassName : Json → String
  | .null => "NoneType"
  | .bool _ => "bool"
  | .int _ => "int"
  | .string _ => "str"
  | .array _ => "list"
  | .object _ => "dict"

/-- The name of the class that a node belongs to. -/
def className : Node → String
  | leaf .string _ => "StringNode"
  | leaf .integer _ => "IntegerNode"
  | leaf .number _ => "NumberNode"
  | leaf .boolean _ => "BooleanNode"
  | enum _ _ => "EnumNode"
  | array _ _ _ => "ArrayNode"
  | object _ _ _ _ => "ObjectNode"
  | reference _ => "ReferenceNode"
  | anyOf _ _ => "AnyOfNode"
  | custom _ => "CustomNode"
  | derived _ name _ | abstract _ name => name
  | foreign value => valueClassName value

/-- The definitions of a node, none counting as an empty map. -/
def definitionList (definitions : Option (List (String × Node))) : List (String × Node) :=
  definitions.getD []

/-- The parts of a node in the order in which they are written. -/
def children : Node → List Node
  | array items _ definitions => items :: (definitionList definitions).map Prod.snd
  | object properties _ _ definitions =>
    properties.map Prod.snd ++ (definitionList definitions).map Prod.snd
  | anyOf alternatives _ => alternatives
  | derived _ _ base => base.children
  | _ => []

mutual

/-- The descendants of a node, depth first, without the node itself. -/
def descendants : Node → List Node
  | array items _ (some definitions) =>
    (items :: descendants items) ++ walkValues definitions
  | array items _ none => items :: descendants items
  | object properties _ _ (some definitions) =>
    walkValues properties ++ walkValues definitions
  | object properties _ _ none => walkValues properties
  | anyOf alternatives _ => walkAll alternatives
  | derived _ _ base => descendants base
  | leaf _ _ | enum _ _ | reference _ | custom _ | abstract _ _ | foreign _ => []

/-- The walks of some nodes, one after the other. -/
def walkAll : List Node → List Node
  | [] => []
  | n :: ns => (n :: descendants n) ++ walkAll ns

/-- The walks of the values of a map, one after the other. -/
def walkValues : List (String × Node) → List Node
  | [] => []
  | (_, n) :: rest => (n :: descendants n) ++ walkValues rest

end

/-- A node and all its descendants, depth first. -/
def walk (n : Node) : List Node := n :: n.descendants

/-- The same node with other definitions, if its kind has any. -/
def withDefinitions? (definitions : Option (List (String × Node))) : Node → Option Node
  | array items description _ => some (array items description definitions)
  | object properties required description _ =>
    some (object properties required description definitions)
  | derived occurrence name base =>
    (withDefinitions? definitions base).map (derived occurrence name)
  | _ => none

theorem walkAll_eq (ns : List Node) : walkAll ns = ns.flatMap walk := by
  induction ns with
  | nil => rfl
  | cons n ns ih => simp [walkAll, walk, ih]

theorem walkValues_eq (m : List (String × Node)) :
    walkValues m = (m.map Prod.snd).flatMap walk := by
  induction m with
  | nil => rfl
  | cons kn m ih => simp [walkValues, walk, ih]

/-- The descendants of a node are its parts with their descendants. -/
theorem descendants_eq : (n : Node) → n.descendants = n.children.flatMap walk
  | leaf _ _ | enum _ _ | reference _ | custom _ | abstract _ _ | foreign _ => rfl
  | array _ _ none | array _ _ (some _) | object _ _ _ none | object _ _ _ (some _) => by
    simp [descendants, children, walk, walkValues_eq, definitionList]
  | anyOf _ _ => by simp [descendants, children, walkAll_eq]
  | derived _ _ base => by simpa [descendants, children] using descendants_eq base

/-- A walk visits the node and then walks its parts. -/
theorem walk_eq (n : Node) : n.walk = n :: n.children.flatMap walk := by
  rw [walk, descendants_eq]

end Node

end TypeSchema
