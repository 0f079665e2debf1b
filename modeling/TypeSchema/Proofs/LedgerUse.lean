import Mathlib.Data.Finset.Card
import TypeSchema.Proofs.Ledger
/-!
# Ledgers in use

Whoever uses a ledger registers types, keeps the entries that are handed out, and stores nodes
through them and marks them. A type that is registered again has several entries; the older ones are
not known to the ledger any more, but they can still be used. `LedgerUse.run` makes a list of calls
on a ledger in which nothing was registered.

After each call the ledger reflects all calls so far (`LedgerUse.Reflects.step`), so it does after
any run (`LedgerUse.reflects_run`): every entry that was ever handed out has a slot of its own, which
holds what was stored through this entry last; and the ledger lists each type once, in the order of
the first registrations, with the entry of the last one.
-/

namespace TypeSchema

/-! ## Lists -/

/-- What stands in a longer list stands in the shorter one or is the last. -/
theorem getElem?_concat_cases {α : Type} {xs : List α} {x y : α} {i : Nat}
    (h : (xs ++ [x])[i]? = some y) : xs[i]? = some y ∨ (i = xs.length ∧ y = x) := by
  rw [List.getElem?_append] at h
  split_ifs at h with hlt
  · exact .inl h
  · rw [List.getElem?_singleton] at h
    split_ifs at h with hzero
    exact .inr ⟨by omega, (Option.some.inj h).symm⟩

/-- Values are looked up and changed in either order. -/
theorem lookup_map {α β γ : Type} [BEq α] (f : β → γ) (xs : List (α × β)) (key : α) :
    (xs.map (Prod.map id f)).lookup key = (xs.lookup key).map f := by
  induction xs with
  | nil => rfl
  | cons x xs ih =>
      rw [List.map_cons, List.lookup_cons, List.lookup_cons]
      cases hkey : key == x.1 <;> simp [hkey, ih]

/-! ## Calls -/

/-- A call of a ledger. Entries are told apart by the number of the registration that handed them
out. -/
inductive LedgerCall (κ : Type) where
  | register (key : κ) (id : String)
  | store (entry : Nat) (n : Node)
  | mark (entry : Nat) (value : Bool)

namespace LedgerCall

variable {κ : Type}

/-- What a call registers: a type and its identifier. -/
def registered? : LedgerCall κ → Option (κ × String)
  | register key id => some (key, id)
  | store .. | mark .. => none

/-- What a call stores through an entry. -/
def stored? (entry : Nat) : LedgerCall κ → Option Node
  | store i n => if i = entry then some n else none
  | register .. | mark .. => none

/-- What a call marks an entry with. -/
def marked? (entry : Nat) : LedgerCall κ → Option Bool
  | mark i value => if i = entry then some value else none
  | register .. | store .. => none

/-- The calls that follow a registration, which is given by its number. -/
def since : (registration : Nat) → List (LedgerCall κ) → List (LedgerCall κ)
  | _, [] => []
  | 0, register .. :: calls => calls
  | i + 1, register .. :: calls => since i calls
  | i, store .. :: calls | i, mark .. :: calls => since i calls

/-- What was stored through an entry last, if anything was. -/
def lastStored? (entry : Nat) (calls : List (LedgerCall κ)) : Option Node :=
  ((since entry calls).filterMap (·.stored? entry)).getLast?

/-- What an entry was marked with last, if it was marked. -/
def lastMark? (entry : Nat) (calls : List (LedgerCall κ)) : Option Bool :=
  ((since entry calls).filterMap (·.marked? entry)).getLast?

variable {i : Nat} {calls : List (LedgerCall κ)}

/-- A further call follows every registration before it. -/
theorem since_concat (h : i < (calls.filterMap registered?).length) (call : LedgerCall κ) :
    since i (calls ++ [call]) = since i calls ++ [call] := by
  -- The registrations are counted down along the calls, so this is shown for every number at once.
  induction calls generalizing i with
  | nil => simp at h
  | cons first calls ih =>
      cases first with
      | register key id =>
          cases i with
          | zero => rfl
          | succ i =>
              have hi : i < (calls.filterMap registered?).length := by
                simpa [registered?] using h
              exact ih hi
      | store | mark =>
          have hi : i < (calls.filterMap registered?).length := by
            simpa [List.filterMap_cons, registered?] using h
          simpa [since] using ih hi

/-- Nothing follows a registration that is the last call. -/
theorem since_concat_register (calls : List (LedgerCall κ)) (key : κ) (id : String) :
    since (calls.filterMap registered?).length (calls ++ [register key id]) = [] := by
  induction calls with
  | nil => rfl
  | cons first calls ih =>
      cases first <;> simpa [List.filterMap_cons, registered?, since] using ih

/-- Of the calls that say something of an entry, a further one is the last. -/
theorem getLast?_since_concat {α : Type} (f : LedgerCall κ → Option α)
    (h : i < (calls.filterMap registered?).length) (call : LedgerCall κ) :
    ((since i (calls ++ [call])).filterMap f).getLast? =
      (f call).or ((since i calls).filterMap f).getLast? := by
  rw [since_concat h, List.filterMap_append, List.getLast?_append]
  cases hcall : f call <;> simp [hcall]

end LedgerCall

/-! ## Marking an entry -/

namespace Ledger

variable {κ : Type} [DecidableEq κ]

/-- Mark an entry that was handed out for a type. If the type has been registered again since, the
ledger does not know the entry and stays as it is. -/
def mark (L : Ledger κ) (key : κ) (entry : Entry) (value : Bool) : Ledger κ :=
  if (L.get? key).map Entry.slot = some entry.slot then L.setRecursive key value else L

end Ledger

/-- An entry after the one that owns a slot was marked. -/
def Entry.marked (slot : Nat) (value : Bool) (e : Entry) : Entry :=
  if e.slot = slot then { e with recursive := value } else e

@[simp] theorem Entry.slot_marked (slot : Nat) (value : Bool) (e : Entry) :
    (e.marked slot value).slot = e.slot := by
  unfold marked
  split <;> rfl

@[simp] theorem Entry.id_marked (slot : Nat) (value : Bool) (e : Entry) :
    (e.marked slot value).id = e.id := by
  unfold marked
  split <;> rfl

@[simp] theorem Entry.recursive_marked (slot : Nat) (value : Bool) (e : Entry) :
    (e.marked slot value).recursive = if e.slot = slot then value else e.recursive := by
  unfold marked
  split <;> rfl

namespace Ledger

variable {κ : Type} [DecidableEq κ] {L : Ledger κ} {key : κ} {e : Entry}

@[simp] theorem arena_mark (L : Ledger κ) (key : κ) (e : Entry) (value : Bool) :
    (L.mark key e value).arena = L.arena := by
  unfold mark
  split <;> simp

@[simp] theorem keys_mark (L : Ledger κ) (key : κ) (e : Entry) (value : Bool) :
    (L.mark key e value).keys = L.keys := by
  unfold mark
  split <;> simp

/-- Where no other type has the slot of an entry, marking the entry is seen in it alone. -/
theorem get?_mark (howner : ∀ k e', L.get? k = some e' → e'.slot = e.slot → k = key) (value : Bool)
    (k : κ) : (L.mark key e value).get? k = (L.get? k).map (Entry.marked e.slot value) := by
  -- Where a type has another slot, or no entry at all, nothing is to be seen.
  have hother : (∀ e', L.get? k = some e' → e'.slot ≠ e.slot) →
      (L.get? k).map (Entry.marked e.slot value) = L.get? k := by
    intro hne
    cases hk : L.get? k with
    | none => rfl
    | some e' => rw [Option.map_some, Entry.marked, if_neg (hne e' hk)]
  rw [mark]
  split_ifs with hcurrent
  · obtain ⟨current, hget, hslot⟩ := Option.map_eq_some_iff.mp hcurrent
    by_cases hk : k = key
    · subst hk
      rw [get?_setRecursive_self hget, hget, Option.map_some, Entry.marked, if_pos hslot]
    · rw [get?_setRecursive_of_ne hk]
      exact (hother fun e' hget' hslot' => hk (howner k e' hget' hslot')).symm
  · refine (hother fun e' hk hslot => hcurrent ?_).symm
    obtain rfl := howner k e' hk hslot
    rw [hk, Option.map_some, hslot]

end Ledger

/-! ## What calls do -/

/-- A ledger, and the entries that it handed out as they are now, each with its type. -/
structure LedgerUse (κ : Type) where
  ledger : Ledger κ
  given : List (κ × Entry)

namespace LedgerUse

variable {κ : Type} [DecidableEq κ]

/-- Make a call. One that uses an entry which was not handed out yet cannot be made and is left
out. -/
def step (u : LedgerUse κ) : LedgerCall κ → LedgerUse κ
  | .register key id =>
    let (ledger, e) := u.ledger.register key id
    ⟨ledger, u.given ++ [(key, e)]⟩
  | .store i n =>
    match u.given[i]? with
    | some (_, e) => { u with ledger := u.ledger.store e n }
    | none => u
  | .mark i value =>
    match u.given[i]? with
    | some (key, e) =>
      ⟨u.ledger.mark key e value, u.given.set i (key, { e with recursive := value })⟩
    | none => u

/-- Make some calls on a ledger in which nothing was registered. -/
def run (calls : List (LedgerCall κ)) : LedgerUse κ := calls.foldl step ⟨.empty, []⟩

/-- A ledger and the entries that it handed out are what some calls make of them. -/
structure Reflects (calls : List (LedgerCall κ)) (u : LedgerUse κ) : Prop where
  length : u.given.length = u.ledger.arena.length
  /-- Slots are taken one after the other, and only by registrations. -/
  slot : ∀ {i : Nat} {key e}, u.given[i]? = some (key, e) → e.slot = i
  registered : u.given.map (fun p => (p.1, p.2.id)) = calls.filterMap (·.registered?)
  node : ∀ {i : Nat} {key e}, u.given[i]? = some (key, e) →
    u.ledger.node e = (LedgerCall.lastStored? i calls).getD (.reference (some e.id))
  mark : ∀ {i : Nat} {key e}, u.given[i]? = some (key, e) →
    e.recursive = (LedgerCall.lastMark? i calls).getD false
  current : ∀ key, u.ledger.get? key = u.given.reverse.lookup key
  order : u.ledger.keys = (u.given.map Prod.fst).eraseDups

namespace Reflects

theorem empty : Reflects [] (⟨.empty, []⟩ : LedgerUse κ) where
  length := rfl
  slot := by simp
  registered := rfl
  node := by simp
  mark := by simp
  current := fun _ => rfl
  order := rfl

variable {calls : List (LedgerCall κ)} {u : LedgerUse κ} {i : Nat} {key : κ} {e : Entry}
  (h : Reflects calls u)
include h

theorem count : (calls.filterMap (·.registered?)).length = u.given.length := by
  rw [← h.registered, List.length_map]

theorem slot_lt (he : u.given[i]? = some (key, e)) : e.slot < u.ledger.arena.length := by
  rw [h.slot he, ← h.length]
  exact (List.getElem?_eq_some_iff.mp he).1

/-- What was stored through an entry last, after one more call. -/
theorem lastStored?_concat (he : u.given[i]? = some (key, e)) (call : LedgerCall κ) :
    LedgerCall.lastStored? i (calls ++ [call]) =
      (call.stored? i).or (LedgerCall.lastStored? i calls) :=
  LedgerCall.getLast?_since_concat _ (h.count ▸ (List.getElem?_eq_some_iff.mp he).1) call

/-- What an entry was marked with last, after one more call. -/
theorem lastMark?_concat (he : u.given[i]? = some (key, e)) (call : LedgerCall κ) :
    LedgerCall.lastMark? i (calls ++ [call]) =
      (call.marked? i).or (LedgerCall.lastMark? i calls) :=
  LedgerCall.getLast?_since_concat _ (h.count ▸ (List.getElem?_eq_some_iff.mp he).1) call

/-- The current entry of a type was handed out for it. -/
theorem exists_given (he : u.ledger.get? key = some e) : ∃ i : Nat, u.given[i]? = some (key, e) := by
  rw [h.current] at he
  obtain ⟨before, after, hsplit, -⟩ := List.lookup_eq_some_iff.mp he
  have hmem : (key, e) ∈ u.given := by
    rw [← List.mem_reverse, hsplit]
    simp
  exact List.mem_iff_getElem?.mp hmem

/-! ### Registering -/

theorem order_register (key : κ) (id : String) :
    (u.ledger.register key id).1.keys = (u.given.map Prod.fst ++ [key]).eraseDups := by
  have hmem : key ∈ u.ledger.keys ↔ key ∈ u.given.map Prod.fst := by
    rw [h.order, List.mem_eraseDups]
  rw [Ledger.keys_register, List.eraseDups_append, ← h.order]
  split_ifs with hkey
  · simp [List.removeAll, hmem.mp hkey]
  · have hremove : [key].removeAll (u.given.map Prod.fst) = [key] := by
      simp [List.removeAll, hmem.not.mp hkey]
    rw [hremove]
    rfl

theorem current_register (key : κ) (id : String) (k : κ) :
    (u.ledger.register key id).1.get? k =
      (u.given ++ [(key, (u.ledger.register key id).2)]).reverse.lookup k := by
  rw [List.reverse_concat, List.lookup_cons]
  by_cases hk : k = key
  · subst hk
    rw [beq_self_eq_true]
    exact Ledger.get?_register_self _ _ _
  · rw [beq_false_of_ne hk, ← h.current]
    exact Ledger.get?_register_of_ne hk _ _

/-- A registration hands out a new entry, which was neither stored through nor marked, and leaves the
old ones as they are. -/
theorem register (key : κ) (id : String) :
    Reflects (calls ++ [.register key id]) (u.step (.register key id)) := by
  have hnone : LedgerCall.since u.given.length (calls ++ [.register key id]) = [] := by
    rw [← h.count]
    exact LedgerCall.since_concat_register calls key id
  have hgiven : ∀ {i : Nat} {k e}, (u.step (.register key id)).given[i]? = some (k, e) →
      u.given[i]? = some (k, e) ∨
        (i = u.given.length ∧ e = (u.ledger.register key id).2) :=
    fun hi => (getElem?_concat_cases hi).imp_right fun ⟨hi, hx⟩ => ⟨hi, (Prod.mk.inj hx).2⟩
  constructor
  case length => simp [step, h.length]
  case slot =>
      intro i k e hi
      rcases hgiven hi with hi | ⟨rfl, rfl⟩
      · exact h.slot hi
      · exact h.length.symm
  case registered => simp [step, h.registered, LedgerCall.registered?]
  case node =>
      intro i k e hi
      rcases hgiven hi with hi | ⟨rfl, rfl⟩
      · rw [h.lastStored?_concat hi, LedgerCall.stored?, Option.none_or, ← h.node hi]
        exact Ledger.node_register_of_lt _ _ _ (h.slot_lt hi)
      · rw [LedgerCall.lastStored?, hnone]
        exact Ledger.node_register_self _ _ _
  case mark =>
      intro i k e hi
      rcases hgiven hi with hi | ⟨rfl, rfl⟩
      · rw [h.lastMark?_concat hi, LedgerCall.marked?, Option.none_or, ← h.mark hi]
      · rw [LedgerCall.lastMark?, hnone]
        rfl
  case current => exact h.current_register key id
  case order =>
      have hkeys : (u.step (.register key id)).given.map Prod.fst = u.given.map Prod.fst ++ [key] :=
        List.map_append
      rw [hkeys]
      exact h.order_register key id

/-! ### Storing and marking -/

/-- A call that uses an entry which was not handed out yet is left out. -/
theorem skip {call : LedgerCall κ} (hget : u.given[i]? = none) (hregister : call.registered? = none)
    (hother : ∀ j, j ≠ i → call.stored? j = none ∧ call.marked? j = none) :
    Reflects (calls ++ [call]) u := by
  have hunused : ∀ {j : Nat} {k e'}, u.given[j]? = some (k, e') →
      call.stored? j = none ∧ call.marked? j = none := by
    intro j k e' hj
    refine hother j ?_
    rintro rfl
    cases hget.symm.trans hj
  constructor
  case length => exact h.length
  case slot => exact h.slot
  case registered => simpa [List.filterMap_cons, hregister] using h.registered
  case node =>
      intro j k e' hj
      rw [h.lastStored?_concat hj, (hunused hj).1, Option.none_or]
      exact h.node hj
  case mark =>
      intro j k e' hj
      rw [h.lastMark?_concat hj, (hunused hj).2, Option.none_or]
      exact h.mark hj
  case current => exact h.current
  case order => exact h.order

/-- Storing through an entry changes its slot and no other. -/
theorem store (he : u.given[i]? = some (key, e)) (n : Node) :
    Reflects (calls ++ [.store i n]) { u with ledger := u.ledger.store e n } where
  length := by simpa using h.length
  slot := h.slot
  registered := by simpa [List.filterMap_cons, LedgerCall.registered?] using h.registered
  node := by
    intro j k e' hj
    rw [h.lastStored?_concat hj, LedgerCall.stored?]
    split_ifs with hji
    · subst hji
      obtain ⟨rfl, rfl⟩ := Prod.mk.inj (Option.some.inj (he.symm.trans hj))
      exact Ledger.node_store_self _ _ (h.slot_lt he)
    · rw [Option.none_or, ← h.node hj]
      refine Ledger.node_store_of_ne ?_ _ _
      rw [h.slot hj, h.slot he]
      exact Ne.symm hji
  mark := by
    intro j k e' hj
    rw [h.lastMark?_concat hj, LedgerCall.marked?, Option.none_or]
    exact h.mark hj
  current := h.current
  order := h.order

/-- As slots tell the entries apart, to replace an entry is to change the one that has its slot. -/
theorem set_eq_map (he : u.given[i]? = some (key, e)) (value : Bool) :
    u.given.set i (key, { e with recursive := value }) =
      u.given.map (Prod.map id (Entry.marked e.slot value)) := by
  apply List.ext_getElem?
  intro j
  rw [List.getElem?_map]
  by_cases hj : i = j
  · subst hj
    rw [List.getElem?_set_self (List.getElem?_eq_some_iff.mp he).1, he]
    simp [Entry.marked]
  · rw [List.getElem?_set_ne hj]
    cases hget : u.given[j]? with
    | none => rfl
    | some p =>
        obtain ⟨k, e'⟩ := p
        have hne : e'.slot ≠ e.slot := by
          rw [h.slot hget, h.slot he]
          exact Ne.symm hj
        simp [Entry.marked, hne]

theorem current_mark (he : u.given[i]? = some (key, e)) (value : Bool) (k : κ) :
    (u.ledger.mark key e value).get? k =
      (u.given.map (Prod.map id (Entry.marked e.slot value))).reverse.lookup k := by
  have howner : ∀ k e', u.ledger.get? k = some e' → e'.slot = e.slot → k = key := by
    intro k e' hk hslot
    obtain ⟨j, hj⟩ := h.exists_given hk
    rw [h.slot hj, h.slot he] at hslot
    subst hslot
    exact (Prod.mk.inj (Option.some.inj (hj.symm.trans he))).1
  rw [Ledger.get?_mark howner, h.current, ← List.map_reverse, lookup_map]

/-- Marking an entry changes its mark and no other, in the ledger as among the entries that were
handed out. -/
theorem marked (he : u.given[i]? = some (key, e)) (value : Bool) :
    Reflects (calls ++ [.mark i value])
      ⟨u.ledger.mark key e value, u.given.map (Prod.map id (Entry.marked e.slot value))⟩ := by
  have hgiven : ∀ {j : Nat} {k e'},
      (u.given.map (Prod.map id (Entry.marked e.slot value)))[j]? = some (k, e') →
        ∃ old, u.given[j]? = some (k, old) ∧ e' = old.marked e.slot value := by
    intro j k e' hj
    rw [List.getElem?_map] at hj
    obtain ⟨⟨k₀, old⟩, hold, heq⟩ := Option.map_eq_some_iff.mp hj
    obtain ⟨rfl, rfl⟩ := Prod.mk.inj heq
    exact ⟨old, hold, rfl⟩
  constructor
  case length => simpa using h.length
  case slot =>
      intro j k e' hj
      obtain ⟨old, hold, rfl⟩ := hgiven hj
      simpa using h.slot hold
  case registered =>
      simpa [List.filterMap_cons, LedgerCall.registered?, Function.comp_def] using h.registered
  case node =>
      intro j k e' hj
      obtain ⟨old, hold, rfl⟩ := hgiven hj
      rw [h.lastStored?_concat hold, LedgerCall.stored?, Option.none_or, Entry.id_marked,
        ← h.node hold]
      simp [Ledger.node]
  case mark =>
      intro j k e' hj
      obtain ⟨old, hold, rfl⟩ := hgiven hj
      rw [h.lastMark?_concat hold, LedgerCall.marked?, Entry.recursive_marked, h.slot hold,
        h.slot he, h.mark hold]
      by_cases hij : i = j
      · rw [if_pos hij.symm, if_pos hij]
        rfl
      · rw [if_neg (Ne.symm hij), if_neg hij, Option.none_or]
  case current => exact h.current_mark he value
  case order =>
      rw [Ledger.keys_mark, h.order]
      simp [Function.comp_def]

/-! ### Runs -/

/-- Whatever is called, the ledger goes on reflecting the calls. -/
theorem step (call : LedgerCall κ) : Reflects (calls ++ [call]) (u.step call) := by
  cases call with
  | register key id => exact h.register key id
  | store i n =>
      cases hget : u.given[i]? with
      | none =>
          have hstep : u.step (.store i n) = u := by simp [LedgerUse.step, hget]
          rw [hstep]
          exact h.skip hget rfl fun j hj => ⟨if_neg (Ne.symm hj), rfl⟩
      | some p =>
          have hstep : u.step (.store i n) = { u with ledger := u.ledger.store p.2 n } := by
            simp [LedgerUse.step, hget]
          rw [hstep]
          exact h.store hget n
  | mark i value =>
      cases hget : u.given[i]? with
      | none =>
          have hstep : u.step (.mark i value) = u := by simp [LedgerUse.step, hget]
          rw [hstep]
          exact h.skip hget rfl fun j hj => ⟨rfl, if_neg (Ne.symm hj)⟩
      | some p =>
          have hstep : u.step (.mark i value) = ⟨u.ledger.mark p.1 p.2 value,
              u.given.map (Prod.map id (Entry.marked p.2.slot value))⟩ := by
            simp [LedgerUse.step, hget, ← h.set_eq_map hget]
          rw [hstep]
          exact h.marked hget value

end Reflects

/-- After any calls the ledger reflects them. -/
theorem reflects_run (calls : List (LedgerCall κ)) : Reflects calls (run calls) := by
  -- From the end: the last call meets what the ones before it left.
  induction calls using List.reverseRecOn with
  | nil => exact .empty
  | append_singleton calls call ih =>
      have hrun : run (calls ++ [call]) = (run calls).step call := by simp [run]
      rw [hrun]
      exact ih.step call

/-! ## What a run leaves -/

theorem nodup_eraseDups (keys : List κ) : keys.eraseDups.Nodup := by
  have hnodup := OrderedMap.nodup_keys_ofList (keys.map fun key => (key, ()))
  rw [OrderedMap.keys_ofList] at hnodup
  simpa [OrderedMap.keys, Function.comp_def] using hnodup

namespace Reflects

variable {calls : List (LedgerCall κ)} {u : LedgerUse κ} (h : Reflects calls u)
include h

/-- The types in the order of their registrations. -/
theorem types_eq : u.given.map Prod.fst = (calls.filterMap (·.registered?)).map Prod.fst := by
  rw [← h.registered, List.map_map]
  rfl

theorem nodup_keys : u.ledger.keys.Nodup := by
  rw [h.order]
  exact nodup_eraseDups _

theorem slots_eq : u.given.map (·.2.slot) = List.range u.given.length := by
  apply List.ext_getElem (by simp)
  intro i hi _
  have hi : i < u.given.length := by simpa using hi
  simpa using h.slot (List.getElem?_eq_getElem hi)

theorem size_eq : u.ledger.size = (u.given.map Prod.fst).toFinset.card := by
  have hset : (u.given.map Prod.fst).toFinset = u.ledger.keys.toFinset := by
    ext key
    simp [h.order]
  rw [hset, List.toFinset_card_of_nodup h.nodup_keys]
  exact (List.length_map _).symm

/-- The ledger lists its types with their current entries. -/
theorem currentEntries_eq : u.ledger.currentEntries.map some = u.ledger.keys.map u.ledger.get? := by
  rw [Ledger.currentEntries, Ledger.keys, OrderedMap.keys, List.map_map, List.map_map]
  exact List.map_congr_left fun p hp => (OrderedMap.find?_of_mem h.nodup_keys hp).symm

end Reflects

/-- The ledger is a faithful arena after any calls. Each registration handed out an entry. Every entry
has a slot of its own in the arena, even if its type was registered again, and the slot holds what was
stored through the entry last, or else a reference to the type; so storing through an entry changes
what no other one holds. The size is the number of the types that were registered, the entry of a type
is that of its last registration, and the types are listed in the order of their first ones. An entry
has the mark that it was given last, and the recursive entries are the marked ones in that list. -/
theorem run_faithful (calls : List (LedgerCall κ)) :
    let L := (run calls).ledger
    let given := (run calls).given
    let types := (calls.filterMap (·.registered?)).map Prod.fst
    given.map (fun p => (p.1, p.2.id)) = calls.filterMap (·.registered?) ∧
    (given.map (·.2.slot)).Nodup ∧ (∀ p ∈ given, p.2.slot < L.arena.length) ∧
    (∀ (i : Nat) key e, given[i]? = some (key, e) →
      L.node e = (LedgerCall.lastStored? i calls).getD (.reference (some e.id)) ∧
      e.recursive = (LedgerCall.lastMark? i calls).getD false) ∧
    (∀ (i j : Nat) p q n, given[i]? = some p → given[j]? = some q → i ≠ j →
      (L.store p.2 n).node q.2 = L.node q.2) ∧
    L.size = types.toFinset.card ∧
    (∀ key, L.get? key = given.reverse.lookup key) ∧
    L.currentEntries.map some = types.eraseDups.map L.get? ∧
    L.recursiveEntries = L.currentEntries.filter (·.recursive) := by
  intro L given types
  have h := reflects_run calls
  refine ⟨h.registered, ?_, ?_, fun i key e he => ⟨h.node he, h.mark he⟩, ?_, ?_, h.current, ?_, rfl⟩
  · rw [h.slots_eq]
    exact List.nodup_range
  · rintro ⟨key, e⟩ hp
    obtain ⟨i, hi⟩ := List.mem_iff_getElem?.mp hp
    exact h.slot_lt hi
  · rintro i j ⟨key, e⟩ ⟨key', e'⟩ n hi hj hne
    refine Ledger.node_store_of_ne ?_ _ _
    rw [h.slot hi, h.slot hj]
    exact Ne.symm hne
  · rw [h.size_eq, h.types_eq]
  · rw [h.currentEntries_eq, h.order, h.types_eq]

/-- A type is registered again, and both of its entries are used. -/
example :
    let calls : List (LedgerCall Bool) :=
      [.register true "a", .register false "b", .mark 0 true, .register true "c",
        .store 0 (.leaf .integer none), .mark 2 true]
    (run calls).ledger.entries = [(true, ⟨2, "c", true⟩), (false, ⟨1, "b", false⟩)] ∧
      (run calls).given.map (fun p => (run calls).ledger.node p.2) =
        [.leaf .integer none, .reference (some "b"), .reference (some "c")] :=
  ⟨rfl, rfl⟩

end LedgerUse

end TypeSchema
