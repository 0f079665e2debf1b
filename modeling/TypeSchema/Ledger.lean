import TypeSchema.Node.Basic
/-!
# Ledgers

A ledger remembers which types a compilation has visited. It is an arena of slots, each
holding a node, with one current entry per type. A type is registered before its parts are
built, and its slot then holds a bare reference; storing the finished node overwrites it.

* `register` always takes a new slot, so no two entries ever share one. A type that is
  registered again keeps its place in the order and gets a fresh entry; the node of the old
  entry stays where it is.
* The order of the entries is that of first registration.
-/

namespace TypeSchema

/-- What a ledger notes about a visited type. -/
structure Entry where
  /-- The place of the type's node in the arena. -/
  slot : Nat
  /-- The identifier under which the type is referred to. -/
  id : String
  /-- Whether the type was met again while it was under construction. -/
  recursive : Bool
  deriving DecidableEq, Repr, Inhabited

/-- A ledger of types that are told apart by keys. -/
structure Ledger (κ : Type) where
  arena : List Node
  entries : List (κ × Entry)
  deriving Inhabited, Repr

namespace Ledger

variable {κ : Type} [DecidableEq κ]

/-- The ledger in which nothing was registered. -/
def empty : Ledger κ := ⟨[], []⟩

/-- The current entry of a type. -/
def get? (ledger : Ledger κ) (key : κ) : Option Entry := OrderedMap.find? key ledger.entries

/-- Whether a type has an entry. -/
def contains (ledger : Ledger κ) (key : κ) : Bool := (ledger.get? key).isSome

/-- The number of types that have an entry. -/
def size (ledger : Ledger κ) : Nat := ledger.entries.length

/-- Give a type a new entry whose slot holds a reference to it. -/
def register (ledger : Ledger κ) (key : κ) (id : String) : Ledger κ × Entry :=
  let entry : Entry := ⟨ledger.arena.length, id, false⟩
  (⟨ledger.arena ++ [.reference (some id)], OrderedMap.put key entry ledger.entries⟩, entry)

/-- The node in the slot of an entry. -/
def node (ledger : Ledger κ) (entry : Entry) : Node :=
  ledger.arena.getD entry.slot (.reference (some entry.id))

/-- Put a node into the slot of an entry. -/
def store (ledger : Ledger κ) (entry : Entry) (n : Node) : Ledger κ :=
  { ledger with arena := ledger.arena.set entry.slot n }

/-- Say whether a type was met again while it was under construction. -/
def setRecursive (ledger : Ledger κ) (key : κ) (value : Bool) : Ledger κ :=
  match ledger.get? key with
  | some entry =>
    { ledger with
      entries := OrderedMap.put key { entry with recursive := value } ledger.entries }
  | none => ledger

/-- The current entries in the order of first registration. -/
def currentEntries (ledger : Ledger κ) : List Entry := ledger.entries.map Prod.snd

/-- The current entries of the types that were met again under construction. -/
def recursiveEntries (ledger : Ledger κ) : List Entry :=
  ledger.currentEntries.filter (·.recursive)

/-- The nodes of the recursive entries by their identifiers. Entries of one identifier share
the place of the first and hold the node of the last. -/
def definitions (ledger : Ledger κ) : List (String × Node) :=
  OrderedMap.ofList (ledger.recursiveEntries.map fun e => (e.id, ledger.node e))

/-! ## What the operations do to entries and slots -/

@[simp] theorem get?_register_self (ledger : Ledger κ) (key : κ) (id : String) :
    (ledger.register key id).1.get? key = some (ledger.register key id).2 := by
  simp [register, get?]

theorem get?_register_of_ne {key other : κ} (h : other ≠ key) (ledger : Ledger κ)
    (id : String) : (ledger.register key id).1.get? other = ledger.get? other :=
  OrderedMap.find?_put_of_ne h _ _

/-- A new slot holds a bare reference. -/
@[simp] theorem node_register_self (ledger : Ledger κ) (key : κ) (id : String) :
    (ledger.register key id).1.node (ledger.register key id).2 = .reference (some id) := by
  simp [register, node]

/-- The slots that are in use keep their nodes. -/
theorem node_register_of_lt {entry : Entry} (ledger : Ledger κ) (key : κ) (id : String)
    (h : entry.slot < ledger.arena.length) :
    (ledger.register key id).1.node entry = ledger.node entry := by
  simp [register, node, List.getD_eq_getElem?_getD, List.getElem?_append_left h]

omit [DecidableEq κ] in
/-- A stored node is found in its slot. -/
theorem node_store_self {entry : Entry} (ledger : Ledger κ) (n : Node)
    (h : entry.slot < ledger.arena.length) : (ledger.store entry n).node entry = n := by
  simp [store, node, List.getD_eq_getElem?_getD, h]

omit [DecidableEq κ] in
/-- Storing changes no other slot. -/
theorem node_store_of_ne {entry other : Entry} (h : other.slot ≠ entry.slot)
    (ledger : Ledger κ) (n : Node) : (ledger.store entry n).node other = ledger.node other := by
  simp [store, node, List.getD_eq_getElem?_getD, List.getElem?_set_ne (Ne.symm h)]

end Ledger

end TypeSchema
