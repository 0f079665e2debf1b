import TypeSchema.Node.Basic
/-!
# Equality of nodes

`Node.same` is the equality that a program comparing two nodes sees: the same kind, and equal
parts. Maps compare without regard to order, lists with regard to it, and no map is different
from an empty one. Fragments written by hand compare as `Json.same` does.
-/

namespace TypeSchema.Node

/-- Equality of descriptions. -/
def sameDescription : Option Json → Option Json → Bool
  | none, none => true
  | some x, some y => x.same y
  | _, _ => false

mutual

/-- Equality as a program sees it. -/
def same : Node → Node → Bool
  | leaf k d, leaf l e => k == l && sameDescription d e
  | enum vs d, enum ws e => vs == ws && sameDescription d e
  | array x d ds, array y e es => same x y && sameDescription d e && sameDefinitions ds es
  | object ps r d ds, object qs s e es =>
    ps.length == qs.length && sameValues ps qs && r == s && sameDescription d e &&
      sameDefinitions ds es
  | reference i, reference j => i == j
  | anyOf xs d, anyOf ys e => sameAll xs ys && sameDescription d e
  | custom xs, custom ys => (Json.object xs).same (.object ys)
  | derived i _ x, derived j _ y => i == j && same x y
  | abstract i _, abstract j _ => i == j
  | foreign v, foreign w => v.same w
  | _, _ => false

/-- `same` node by node. -/
def sameAll : List Node → List Node → Bool
  | [], [] => true
  | x :: xs, y :: ys => same x y && sameAll xs ys
  | _, _ => false

/-- Every entry of the first map has an equal in the second. -/
def sameValues : List (String × Node) → List (String × Node) → Bool
  | [], _ => true
  | (key, x) :: xs, ys =>
    (match OrderedMap.find? key ys with
      | some y => same x y
      | none => false) && sameValues xs ys

/-- Both have no definitions, or equal maps of them. -/
def sameDefinitions :
    Option (List (String × Node)) → Option (List (String × Node)) → Bool
  | none, none => true
  | some xs, some ys => xs.length == ys.length && sameValues xs ys
  | _, _ => false

end

end TypeSchema.Node
