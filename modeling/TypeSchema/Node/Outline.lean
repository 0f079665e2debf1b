import TypeSchema.Node.Basic
import TypeSchema.Text.Quoted
/-!
# Outlines of trees

The kinds of a node, of its parts, and of everything its walk visits. A plain value in a tree
has no kind and cannot be walked, and only arrays and objects can be given definitions.
-/

namespace TypeSchema

/-- A node or a plain value was asked for a member that its class lacks. -/
structure MissingMember where
  className : String
  member : String
  deriving DecidableEq, Repr

/-- The text of the error. -/
def MissingMember.message (e : MissingMember) : String :=
  Text.quoted e.className ++ " object has no attribute " ++ Text.quoted e.member

namespace Node

/-- The kinds in a tree. -/
structure Outline where
  kind : String
  children : List String
  walk : List String
  deriving DecidableEq, Repr

/-- The kinds of some nodes; a plain value lacks `member`. -/
def kinds (member : String) (nodes : List Node) : Except MissingMember (List String) :=
  nodes.mapM fun
    | foreign value => .error ⟨valueClassName value, member⟩
    | n => .ok n.kind

/-- The outline of a tree. -/
def outline (n : Node) : Except MissingMember Outline := do
  let _ ← kinds "kind" [n]
  let children ← kinds "kind" n.children
  let walk ← kinds "walk" n.walk
  return ⟨n.kind, children, walk⟩

/-- The same node with other definitions. -/
def withDefinitions (definitions : Option (List (String × Node))) (n : Node) :
    Except MissingMember Node :=
  match n.withDefinitions? definitions with
  | some changed => .ok changed
  | none => .error ⟨n.className, "with_definitions"⟩

end Node

end TypeSchema
