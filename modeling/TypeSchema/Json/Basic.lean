/-!
# JSON documents

`Json` is a JSON value whose numbers are integers and whose objects keep the order in which
their members were written. Two notions of equality matter:

* equality of values as Lean data, under which `{"a":1,"b":2}` and `{"b":2,"a":1}` differ:
  documents are compared this way;
* `Json.same`, which ignores the order of members and identifies `true` with `1` and
  `false` with `0`: fragments that were written by hand are compared this way.
-/

namespace TypeSchema

/-- A JSON value with integer numbers and ordered objects. -/
inductive Json where
  | null
  | bool (value : Bool)
  | int (value : Int)
  | string (value : String)
  | array (items : List Json)
  | object (members : List (String × Json))
  deriving Inhabited, Repr

namespace Json

/-- A text as a JSON string, none as `null`. -/
def ofString? : Option String → Json
  | some s => .string s
  | none => .null

/-- A JSON array of strings. -/
def ofStrings (ss : List String) : Json :=
  .array (ss.map .string)

mutual

/-- Equality as data: members in order, every value of the same sort. -/
def beq : Json → Json → Bool
  | .null, .null => true
  | .bool a, .bool b => a == b
  | .int a, .int b => a == b
  | .string a, .string b => a == b
  | .array xs, .array ys => beqItems xs ys
  | .object xs, .object ys => beqMembers xs ys
  | _, _ => false

/-- Equality as data of two arrays. -/
def beqItems : List Json → List Json → Bool
  | [], [] => true
  | x :: xs, y :: ys => beq x y && beqItems xs ys
  | _, _ => false

/-- Equality as data of two objects. -/
def beqMembers : List (String × Json) → List (String × Json) → Bool
  | [], [] => true
  | (k, x) :: xs, (l, y) :: ys => k == l && beq x y && beqMembers xs ys
  | _, _ => false

end

mutual

theorem beq_iff (x y : Json) : beq x y = true ↔ x = y := by
  cases x <;> cases y <;> simp [beq, beqItems_iff, beqMembers_iff]

theorem beqItems_iff (xs ys : List Json) : beqItems xs ys = true ↔ xs = ys := by
  cases xs with
  | nil => cases ys <;> simp [beqItems]
  | cons x xs => cases ys <;> simp [beqItems, beq_iff, beqItems_iff]

theorem beqMembers_iff (xs ys : List (String × Json)) : beqMembers xs ys = true ↔ xs = ys := by
  cases xs with
  | nil => cases ys <;> simp [beqMembers]
  | cons x xs =>
    obtain ⟨k, v⟩ := x
    cases ys with
    | nil => simp [beqMembers]
    | cons y ys => simp [beqMembers, beq_iff, beqMembers_iff, Prod.ext_iff]

end

instance : DecidableEq Json := fun x y => decidable_of_iff _ (beq_iff x y)

mutual

/-- Equality up to the order of object members, with truth values counted as numbers. -/
def same : Json → Json → Bool
  | .null, .null => true
  | .bool a, .bool b => a == b
  | .int a, .int b => a == b
  | .bool a, .int b => (if a then 1 else 0) == b
  | .int a, .bool b => a == (if b then 1 else 0)
  | .string a, .string b => a == b
  | .array xs, .array ys => sameItems xs ys
  | .object xs, .object ys => xs.length == ys.length && sameMembers xs ys
  | _, _ => false

/-- `same` item by item. -/
def sameItems : List Json → List Json → Bool
  | [], [] => true
  | x :: xs, y :: ys => same x y && sameItems xs ys
  | _, _ => false

/-- Every member of the first object has an equal in the second. -/
def sameMembers : List (String × Json) → List (String × Json) → Bool
  | [], _ => true
  | (k, x) :: xs, ys =>
    (match ys.lookup k with
      | some y => same x y
      | none => false) && sameMembers xs ys

end

end Json

end TypeSchema
