/-!
# Ordered maps

Association lists read as maps that remember the order in which their keys first appeared.
`put` replaces the value of a key in place and appends a new key at the end, so a map built
by `put` alone never holds a key twice.
-/

namespace TypeSchema.OrderedMap

variable {κ : Type _} {α : Type _}

/-- The keys in the order in which they first appeared. -/
def keys (m : List (κ × α)) : List κ := m.map Prod.fst

@[simp] theorem keys_nil : keys ([] : List (κ × α)) = [] := rfl

@[simp] theorem keys_cons (kv : κ × α) (m : List (κ × α)) : keys (kv :: m) = kv.1 :: keys m :=
  rfl

variable [BEq κ]

/-- Give `key` the value `value`: in place if the key is there, at the end otherwise. -/
def put (key : κ) (value : α) : List (κ × α) → List (κ × α)
  | [] => [(key, value)]
  | (k, v) :: rest => if k == key then (k, value) :: rest else (k, v) :: put key value rest

/-- The value of `key`. -/
def find? (key : κ) : List (κ × α) → Option α
  | [] => none
  | (k, v) :: rest => if k == key then some v else find? key rest

/-- The map in which each pair of a list was put in turn. -/
def ofList (pairs : List (κ × α)) : List (κ × α) :=
  pairs.foldl (fun m (k, v) => put k v m) []

@[simp] theorem find?_put_self [LawfulBEq κ] (key : κ) (value : α) (m : List (κ × α)) :
    find? key (put key value m) = some value := by
  induction m with
  | nil => simp [put, find?]
  | cons kv rest ih =>
    by_cases h : kv.1 = key
    · simp [put, find?, h]
    · simp [put, find?, h, ih]

theorem find?_put_of_ne [LawfulBEq κ] {key other : κ} (h : other ≠ key) (value : α)
    (m : List (κ × α)) : find? other (put key value m) = find? other m := by
  induction m with
  | nil => simp [put, find?, Ne.symm h]
  | cons kv rest ih =>
    by_cases ho : kv.1 = other
    · subst ho
      simp [put, find?, h]
    · by_cases hk : kv.1 = key
      · simp [put, find?, hk, Ne.symm h]
      · simp [put, find?, hk, ho, ih]

/-- `put` adds its key and no other. -/
theorem mem_keys_put [LawfulBEq κ] {key k : κ} {value : α} {m : List (κ × α)} :
    k ∈ keys (put key value m) ↔ k = key ∨ k ∈ keys m := by
  induction m with
  | nil => simp [put]
  | cons kv rest ih =>
    by_cases h : kv.1 = key
    · simp [put, h]
    · simp [put, h, ih, or_left_comm]

/-- `put` keeps the keys distinct. -/
theorem nodup_keys_put [LawfulBEq κ] (key : κ) (value : α) {m : List (κ × α)}
    (h : (keys m).Nodup) : (keys (put key value m)).Nodup := by
  induction m with
  | nil => simp [put]
  | cons kv rest ih =>
    obtain ⟨fresh, others⟩ := List.nodup_cons.mp h
    by_cases hk : kv.1 = key
    · subst hk
      simpa [put] using h
    · simp only [put, beq_iff_eq, hk, if_false, keys_cons, List.nodup_cons]
      exact ⟨fun member => (mem_keys_put.mp member).elim hk fresh, ih others⟩

/-- A map built from pairs holds no key twice. -/
theorem nodup_keys_ofList [LawfulBEq κ] (pairs : List (κ × α)) :
    (keys (ofList pairs)).Nodup := by
  have folded : ∀ (pairs m : List (κ × α)), (keys m).Nodup →
      (keys (pairs.foldl (fun m (k, v) => put k v m) m)).Nodup := by
    intro pairs
    induction pairs with
    | nil => intro m h; exact h
    | cons pair rest ih =>
      intro m h
      exact ih _ (nodup_keys_put pair.1 pair.2 h)
  exact folded pairs [] List.nodup_nil

end TypeSchema.OrderedMap
