import TypeSchema.Ledger
import TypeSchema.Proofs.OrderedMap
/-!
# Ledgers as arenas

A ledger is *well formed* when every current entry owns a slot of its own inside the arena.
Registering, storing and marking keep a ledger well formed, and each of them is described here
by what it does to the entries (`get?`), to the order of the types (`keys`) and to the slots
(`node`). Proofs about compilations cite these facts and never open the operations.
-/

namespace TypeSchema.Ledger

variable {κ : Type} [DecidableEq κ]

/-- The types in the order of their first registration. -/
def keys (L : Ledger κ) : List κ := OrderedMap.keys L.entries

/-- Every current entry owns a slot of its own. -/
structure WellFormed (L : Ledger κ) : Prop where
  nodup : L.keys.Nodup
  slot_lt : ∀ {k e}, L.get? k = some e → e.slot < L.arena.length
  slot_inj : ∀ {k k' e e'}, L.get? k = some e → L.get? k' = some e' → e.slot = e'.slot → k = k'

@[simp] theorem get?_empty (k : κ) : (empty : Ledger κ).get? k = none := rfl

theorem mem_keys_iff {L : Ledger κ} {k : κ} : k ∈ L.keys ↔ ∃ e, L.get? k = some e := by
  rw [← Option.isSome_iff_exists, Option.isSome_iff_ne_none, Ne, get?,
    OrderedMap.find?_eq_none_iff, not_not, keys]

theorem WellFormed.empty : (Ledger.empty : Ledger κ).WellFormed where
  nodup := List.nodup_nil
  slot_lt := fun h => absurd h (by simp)
  slot_inj := fun h => absurd h (by simp)

omit [DecidableEq κ] in
/-- A slot inside the arena is read off the arena. -/
theorem node_eq_of_prefix {L L' : Ledger κ} {e e' : Entry} (h : L.arena <+: L'.arena)
    (he : e.slot < L.arena.length) (hslot : e'.slot = e.slot) : L'.node e' = L.node e := by
  obtain ⟨rest, hrest⟩ := h
  simp [node, hslot, ← hrest, List.getD_eq_getElem?_getD, List.getElem?_append_left he, he]

/-! ## Registering -/

@[simp] theorem arena_register (L : Ledger κ) (k : κ) (id : String) :
    (L.register k id).1.arena = L.arena ++ [.reference (some id)] := rfl

@[simp] theorem entry_register (L : Ledger κ) (k : κ) (id : String) :
    (L.register k id).2 = ⟨L.arena.length, id, false⟩ := rfl

/-- A type that is registered again keeps its place; a new one comes last. -/
theorem keys_register (L : Ledger κ) (k : κ) (id : String) :
    (L.register k id).1.keys = if k ∈ L.keys then L.keys else L.keys ++ [k] := by
  by_cases h : k ∈ L.keys
  · rw [if_pos h]
    exact OrderedMap.keys_put_of_mem _ h
  · rw [if_neg h, keys, register, OrderedMap.put_of_not_mem _ h]
    simp [keys, OrderedMap.keys]

theorem WellFormed.register {L : Ledger κ} (h : L.WellFormed) (k : κ) (id : String) :
    (L.register k id).1.WellFormed := by
  have hsplit : ∀ {t e}, (L.register k id).1.get? t = some e →
      (t = k ∧ e = ⟨L.arena.length, id, false⟩) ∨ (t ≠ k ∧ L.get? t = some e) := by
    intro t e ht
    by_cases htk : t = k
    · subst htk
      rw [get?_register_self] at ht
      exact .inl ⟨rfl, (Option.some.inj ht).symm⟩
    · rw [get?_register_of_ne htk] at ht
      exact .inr ⟨htk, ht⟩
  refine ⟨OrderedMap.nodup_keys_put k _ h.nodup, ?_, ?_⟩
  · intro t e ht
    rcases hsplit ht with ⟨-, rfl⟩ | ⟨-, ht⟩
    · simp
    · exact Nat.lt_of_lt_of_le (h.slot_lt ht) (by simp)
  · intro t t' e e' ht ht' hslot
    rcases hsplit ht with ⟨rfl, rfl⟩ | ⟨-, hold⟩ <;>
      rcases hsplit ht' with ⟨rfl, rfl⟩ | ⟨-, hold'⟩
    · rfl
    · exact absurd (h.slot_lt hold') (by simp only at hslot; omega)
    · exact absurd (h.slot_lt hold) (by simp only at hslot; omega)
    · exact h.slot_inj hold hold' hslot

/-! ## Storing -/

@[simp] theorem get?_store (L : Ledger κ) (e : Entry) (n : Node) (k : κ) :
    (L.store e n).get? k = L.get? k := rfl

omit [DecidableEq κ] in
@[simp] theorem keys_store (L : Ledger κ) (e : Entry) (n : Node) :
    (L.store e n).keys = L.keys := rfl

omit [DecidableEq κ] in
@[simp] theorem arena_store (L : Ledger κ) (e : Entry) (n : Node) :
    (L.store e n).arena = L.arena.set e.slot n := rfl

theorem WellFormed.store {L : Ledger κ} (h : L.WellFormed) (e : Entry) (n : Node) :
    (L.store e n).WellFormed :=
  ⟨h.nodup, fun hk => by simpa using h.slot_lt hk, h.slot_inj⟩

/-! ## Marking -/

theorem setRecursive_eq {L : Ledger κ} {k : κ} {e : Entry} (h : L.get? k = some e) (b : Bool) :
    L.setRecursive k b =
      { L with entries := OrderedMap.put k { e with recursive := b } L.entries } := by
  simp [setRecursive, h]

theorem get?_setRecursive_self {L : Ledger κ} {k : κ} {e : Entry} (h : L.get? k = some e)
    (b : Bool) : (L.setRecursive k b).get? k = some { e with recursive := b } := by
  rw [setRecursive_eq h]
  exact OrderedMap.find?_put_self _ _ _

theorem get?_setRecursive_of_ne {k t : κ} (h : t ≠ k) (L : Ledger κ) (b : Bool) :
    (L.setRecursive k b).get? t = L.get? t := by
  cases hk : L.get? k with
  | none => simp [setRecursive, hk]
  | some e =>
      rw [setRecursive_eq hk]
      exact OrderedMap.find?_put_of_ne h _ _

@[simp] theorem arena_setRecursive (L : Ledger κ) (k : κ) (b : Bool) :
    (L.setRecursive k b).arena = L.arena := by
  unfold setRecursive
  split <;> rfl

@[simp] theorem keys_setRecursive (L : Ledger κ) (k : κ) (b : Bool) :
    (L.setRecursive k b).keys = L.keys := by
  cases hk : L.get? k with
  | none => simp [setRecursive, hk]
  | some e =>
      rw [setRecursive_eq hk]
      exact OrderedMap.keys_put_of_mem _ (mem_keys_iff.mpr ⟨e, hk⟩)

/-- Marking changes the mark of one entry and nothing else. -/
theorem get?_setRecursive_eq_some {L : Ledger κ} {k t : κ} {b : Bool} {e : Entry}
    (h : (L.setRecursive k b).get? t = some e) :
    ∃ e₀, L.get? t = some e₀ ∧ e = { e₀ with recursive := if t = k then b else e₀.recursive } := by
  by_cases htk : t = k
  · subst htk
    obtain ⟨e₀, he₀⟩ := mem_keys_iff.mp (keys_setRecursive L t b ▸ mem_keys_iff.mpr ⟨e, h⟩)
    rw [get?_setRecursive_self he₀, Option.some.injEq] at h
    exact ⟨e₀, he₀, by simp [← h]⟩
  · rw [get?_setRecursive_of_ne htk] at h
    exact ⟨e, h, by simp [htk]⟩

theorem WellFormed.setRecursive {L : Ledger κ} (h : L.WellFormed) (k : κ) (b : Bool) :
    (L.setRecursive k b).WellFormed := by
  refine ⟨(keys_setRecursive L k b).symm ▸ h.nodup, ?_, ?_⟩
  · intro t e ht
    obtain ⟨e₀, he₀, rfl⟩ := get?_setRecursive_eq_some ht
    simpa using h.slot_lt he₀
  · intro t t' e e' ht ht' hslot
    obtain ⟨e₀, he₀, rfl⟩ := get?_setRecursive_eq_some ht
    obtain ⟨e₁, he₁, rfl⟩ := get?_setRecursive_eq_some ht'
    exact h.slot_inj he₀ he₁ hslot

/-! ## Definitions -/

theorem WellFormed.mem_entries_iff {L : Ledger κ} (h : L.WellFormed) {k : κ} {e : Entry} :
    (k, e) ∈ L.entries ↔ L.get? k = some e :=
  ⟨OrderedMap.find?_of_mem h.nodup, OrderedMap.mem_of_find?⟩

omit [DecidableEq κ] in
theorem recursiveEntries_eq (L : Ledger κ) :
    L.recursiveEntries = (L.entries.filter (·.2.recursive)).map Prod.snd := by
  simp [recursiveEntries, currentEntries, List.filter_map, Function.comp_def]

theorem WellFormed.mem_recursiveEntries_iff {L : Ledger κ} (h : L.WellFormed) {e : Entry} :
    e ∈ L.recursiveEntries ↔ ∃ k, L.get? k = some e ∧ e.recursive = true := by
  simp [recursiveEntries_eq, ← h.mem_entries_iff]

end TypeSchema.Ledger
