/-!
# Linearization of inheritance

The order in which a class and its ancestors are searched. The order of a class starts with
the class itself and merges the orders of its bases with the list of the bases: the next
class is the first head of a list that stands in no other list's tail. The merge keeps the
order of every list, and fails when the lists contradict each other.
-/

namespace TypeSchema.Linearization

variable {α : Type _} [BEq α]

/-- A class that may come next: the head of some list, in the tail of none. -/
def next? (lists : List (List α)) : Option α :=
  lists.findSome? fun list =>
    match list with
    | [] => none
    | c :: _ => if lists.any (fun other => other.tail.contains c) then none else some c

/-- The lists without their head `c`. -/
def dropHead (c : α) (lists : List (List α)) : List (List α) :=
  lists.map fun list =>
    match list with
    | [] => []
    | d :: rest => if d == c then rest else list

/-- Merge lists in at most `steps` steps. -/
def mergeIn : (steps : Nat) → List (List α) → Option (List α)
  | 0, lists => if lists.all List.isEmpty then some [] else none
  | steps + 1, lists =>
    if lists.all List.isEmpty then some []
    else do
      let c ← next? lists
      let rest ← mergeIn steps (dropHead c lists)
      return c :: rest

/-- Merge lists into one that keeps the order of each; every step drops a head. -/
def merge (lists : List (List α)) : Option (List α) :=
  mergeIn lists.flatten.length lists

/-- The classes that block each other where a merge fails: the heads that are left. -/
def blockedIn : (steps : Nat) → List (List α) → List α
  | 0, lists => lists.filterMap List.head?
  | steps + 1, lists =>
    match next? lists with
    | none => lists.filterMap List.head?
    | some c => blockedIn steps (dropHead c lists)

/-- The bases' own orders, and the list of the bases. -/
def ordersOf (bases : List (α × List α)) : List (List α) :=
  bases.map Prod.snd ++ [bases.map Prod.fst]

/-- The classes that keep a class with the given bases from having a search order. -/
def blocked (bases : List (α × List α)) : List α :=
  (blockedIn (ordersOf bases).flatten.length (ordersOf bases)).eraseDups

/-- The search order of a class `c` with the given bases, each with its own order. -/
def ofBases (c : α) (bases : List (α × List α)) : Option (List α) :=
  (merge (ordersOf bases)).map (c :: ·)

/-! ## The merge keeps the order of every list -/

/-- A list without its head is a part of what follows that head. -/
theorem sublist_cons_of_dropHead [LawfulBEq α] {c : α} {list rest : List α}
    (h : (match list with
      | [] => []
      | d :: tail => if d == c then tail else list).Sublist rest) :
    list.Sublist (c :: rest) := by
  cases list with
  | nil => exact List.nil_sublist _
  | cons d tail =>
    by_cases hd : d = c
    · subst hd
      simpa using h
    · simp only [beq_iff_eq, hd, if_false] at h
      exact h.cons c

/-- Every merged list is a part of the merge, in the same order. -/
theorem sublist_of_mergeIn [LawfulBEq α] {steps : Nat} {lists : List (List α)}
    {merged list : List α} (h : mergeIn steps lists = some merged) (member : list ∈ lists) :
    list.Sublist merged := by
  induction steps generalizing lists merged list with
  | zero =>
    simp only [mergeIn] at h
    split at h
    · next empty =>
      have nil := List.isEmpty_iff.mp (List.all_eq_true.mp empty list member)
      exact nil ▸ List.nil_sublist _
    · cases h
  | succ steps ih =>
    simp only [mergeIn] at h
    split at h
    · next empty =>
      have nil := List.isEmpty_iff.mp (List.all_eq_true.mp empty list member)
      exact nil ▸ List.nil_sublist _
    · obtain ⟨c, _, h⟩ := Option.bind_eq_some_iff.mp h
      obtain ⟨rest, hrest, h⟩ := Option.bind_eq_some_iff.mp h
      cases h
      exact sublist_cons_of_dropHead (ih hrest (List.mem_map.mpr ⟨list, member, rfl⟩))

/-- Every list stands in the merge in its own order. -/
theorem sublist_of_merge [LawfulBEq α] {lists : List (List α)} {merged list : List α}
    (h : merge lists = some merged) (member : list ∈ lists) : list.Sublist merged :=
  sublist_of_mergeIn h member

end TypeSchema.Linearization
