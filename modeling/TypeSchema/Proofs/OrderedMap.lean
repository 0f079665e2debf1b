import Mathlib.Data.List.Induction
import Mathlib.Data.List.Nodup
import Mathlib.Data.List.Perm.Subperm
import TypeSchema.OrderedMap
/-!
# What ordered maps hold

`put` and `ofList` seen through membership and look-up. A map built from pairs has the keys of
the pairs in the order in which they first occur, and for each key the value of the *last* pair
that has it (`mem_ofList_iff`); pairs of distinct keys are their own map (`ofList_of_nodup`).
-/

namespace TypeSchema.OrderedMap

variable {κ : Type _} {α β : Type _} [BEq κ] [LawfulBEq κ]

/-! ## Look-up and membership -/

omit [BEq κ] [LawfulBEq κ] in
theorem exists_of_forall₂ {R : α → β → Prop} {xs : List α} {ys : List β} {y : β}
    (h : List.Forall₂ R xs ys) (hy : y ∈ ys) : ∃ x ∈ xs, R x y := by
  induction h with
  | nil => exact absurd hy List.not_mem_nil
  | cons hhead _ ih =>
      rcases List.mem_cons.mp hy with rfl | hy
      · exact ⟨_, List.mem_cons_self, hhead⟩
      · obtain ⟨x, hx, hR⟩ := ih hy
        exact ⟨x, List.mem_cons_of_mem _ hx, hR⟩

omit [BEq κ] [LawfulBEq κ] in
theorem mem_keys_of_mem {p : κ × α} {m : List (κ × α)} (h : p ∈ m) : p.1 ∈ keys m :=
  List.mem_map_of_mem h

omit [BEq κ] [LawfulBEq κ] in
theorem keys_of_forall₂ {m : List (κ × α)} {m' : List (κ × β)}
    (h : List.Forall₂ (fun p q => q.1 = p.1) m m') : keys m' = keys m := by
  induction h with
  | nil => rfl
  | cons hhead _ ih => rw [keys_cons, keys_cons, ih, hhead]

theorem find?_eq_none_iff {key : κ} {m : List (κ × α)} :
    find? key m = none ↔ key ∉ keys m := by
  induction m with
  | nil => simp [find?]
  | cons kv rest ih =>
      by_cases h : kv.1 = key
      · simp [find?, h]
      · simp [find?, h, ih, Ne.symm h]

/-- What a look-up finds is in the map. -/
theorem mem_of_find? {key : κ} {value : α} {m : List (κ × α)} (h : find? key m = some value) :
    (key, value) ∈ m := by
  induction m with
  | nil => simp [find?] at h
  | cons kv rest ih =>
      obtain ⟨k, v⟩ := kv
      by_cases hk : k = key
      · subst hk
        simp only [find?, beq_self_eq_true, if_true, Option.some.injEq] at h
        simp [h]
      · simp only [find?, beq_iff_eq, hk, if_false] at h
        exact List.mem_cons_of_mem _ (ih h)

omit [LawfulBEq κ] in
theorem find?_append (key : κ) (m m' : List (κ × α)) :
    find? key (m ++ m') = (find? key m).or (find? key m') := by
  induction m with
  | nil => rfl
  | cons kv rest ih =>
      by_cases hk : (kv.1 == key) = true
      · simp [find?, hk]
      · simp [find?, hk, ih]

/-- Where keys are distinct, every entry is found. -/
theorem find?_of_mem {key : κ} {value : α} {m : List (κ × α)} (hm : (keys m).Nodup)
    (h : (key, value) ∈ m) : find? key m = some value := by
  induction m with
  | nil => simp at h
  | cons kv rest ih =>
      obtain ⟨k, v⟩ := kv
      obtain ⟨hfresh, hrest⟩ : k ∉ keys rest ∧ (keys rest).Nodup := List.nodup_cons.mp hm
      rcases List.mem_cons.mp h with heq | hin
      · obtain ⟨rfl, rfl⟩ := Prod.mk.inj heq
        simp [find?]
      · have hne : k ≠ key := by
          rintro rfl
          exact hfresh (mem_keys_of_mem hin)
        simpa [find?, hne] using ih hrest hin

/-! ## `put` -/

/-- A key that is there keeps its place. -/
theorem keys_put_of_mem {key : κ} {m : List (κ × α)} (value : α) (h : key ∈ keys m) :
    keys (put key value m) = keys m := by
  induction m with
  | nil => simp at h
  | cons kv rest ih =>
      by_cases hk : kv.1 = key
      · simp [put, hk]
      · have hrest : key ∈ keys rest := by simpa [Ne.symm hk] using h
        simp [put, hk, ih hrest]

/-- A new key comes last. -/
theorem put_of_not_mem {key : κ} {m : List (κ × α)} (value : α) (h : key ∉ keys m) :
    put key value m = m ++ [(key, value)] := by
  induction m with
  | nil => rfl
  | cons kv rest ih =>
      obtain ⟨hk, hrest⟩ := not_or.mp (List.mem_cons.not.mp h)
      simp [put, Ne.symm hk, ih hrest]

theorem mem_put_iff {key : κ} {value : α} {m : List (κ × α)} (hm : (keys m).Nodup)
    {p : κ × α} : p ∈ put key value m ↔ p = (key, value) ∨ (p ∈ m ∧ p.1 ≠ key) := by
  induction m with
  | nil => simp [put]
  | cons kv rest ih =>
      obtain ⟨k, v⟩ := kv
      obtain ⟨hfresh, hrest⟩ : k ∉ keys rest ∧ (keys rest).Nodup := List.nodup_cons.mp hm
      by_cases hk : k = key
      · subst hk
        have hne : p ∈ rest → p.1 ≠ k := by
          rintro hp rfl
          exact hfresh (mem_keys_of_mem hp)
        simp only [put, beq_self_eq_true, if_true, List.mem_cons]
        constructor
        · rintro (rfl | hp)
          · exact .inl rfl
          · exact .inr ⟨.inr hp, hne hp⟩
        · rintro (rfl | ⟨rfl | hp, hpk⟩)
          · exact .inl rfl
          · exact absurd rfl hpk
          · exact .inr hp
      · simp only [put, beq_iff_eq, hk, if_false, List.mem_cons, ih hrest]
        constructor
        · rintro (rfl | rfl | ⟨hp, hpk⟩)
          · exact .inr ⟨.inl rfl, hk⟩
          · exact .inl rfl
          · exact .inr ⟨.inr hp, hpk⟩
        · rintro (rfl | ⟨rfl | hp, hpk⟩)
          · exact .inr (.inl rfl)
          · exact .inl rfl
          · exact .inr (.inr ⟨hp, hpk⟩)

omit [LawfulBEq κ] in
/-- Putting a value and changing all values can be done in either order. -/
theorem put_map (f : α → β) (key : κ) (value : α) (m : List (κ × α)) :
    put key (f value) (m.map (Prod.map id f)) = (put key value m).map (Prod.map id f) := by
  induction m with
  | nil => rfl
  | cons kv rest ih =>
      obtain ⟨k, v⟩ := kv
      by_cases hk : (k == key) = true
      · simp [put, hk]
      · simp [put, hk, ih]

/-! ## `ofList` -/

omit [LawfulBEq κ] in
@[simp] theorem ofList_nil : ofList ([] : List (κ × α)) = [] := rfl

omit [LawfulBEq κ] in
theorem ofList_append_singleton (pairs : List (κ × α)) (p : κ × α) :
    ofList (pairs ++ [p]) = put p.1 p.2 (ofList pairs) := by
  simp [ofList, List.foldl_append]

omit [LawfulBEq κ] in
/-- Changing all values and building the map can be done in either order. -/
theorem ofList_map (f : α → β) (pairs : List (κ × α)) :
    ofList (pairs.map (Prod.map id f)) = (ofList pairs).map (Prod.map id f) := by
  induction pairs using List.reverseRecOn with
  | nil => rfl
  | append_singleton pairs p ih =>
      rw [List.map_append, List.map_singleton, ofList_append_singleton, ih,
        ofList_append_singleton]
      exact put_map f p.1 p.2 (ofList pairs)

theorem mem_keys_ofList {key : κ} {pairs : List (κ × α)} :
    key ∈ keys (ofList pairs) ↔ key ∈ keys pairs := by
  induction pairs using List.reverseRecOn with
  | nil => simp
  | append_singleton pairs p ih =>
      rw [ofList_append_singleton, mem_keys_put, ih]
      simp [keys, or_comm, eq_comm]

/-- The keys stand in the order in which they first occur. -/
theorem keys_ofList (pairs : List (κ × α)) : keys (ofList pairs) = (keys pairs).eraseDups := by
  induction pairs using List.reverseRecOn with
  | nil => rfl
  | append_singleton pairs p ih =>
      have hkeys : keys (pairs ++ [p]) = keys pairs ++ [p.1] := List.map_append
      rw [ofList_append_singleton, hkeys, List.eraseDups_append, ← ih]
      by_cases hp : p.1 ∈ keys pairs
      · rw [keys_put_of_mem _ (mem_keys_ofList.mpr hp)]
        simp [List.removeAll, hp]
      · rw [put_of_not_mem _ (mem_keys_ofList.not.mpr hp)]
        have hremove : [p.1].removeAll (keys pairs) = [p.1] := by simp [List.removeAll, hp]
        rw [hremove]
        exact List.map_append

/-- Pairs of distinct keys are their own map. -/
theorem ofList_of_nodup {pairs : List (κ × α)} (h : (keys pairs).Nodup) :
    ofList pairs = pairs := by
  induction pairs using List.reverseRecOn with
  | nil => rfl
  | append_singleton pairs p ih =>
      have hsplit : (keys pairs ++ [p.1]).Nodup := by simpa [keys] using h
      obtain ⟨hpairs, -, hdisjoint⟩ := List.nodup_append.mp hsplit
      have hfresh : p.1 ∉ keys pairs := fun hin => hdisjoint _ hin _ (by simp) rfl
      rw [ofList_append_singleton, ih hpairs, put_of_not_mem p.2 hfresh]

/-- A map with as many keys as pairs is made of distinct keys. -/
theorem nodup_keys_of_length {pairs : List (κ × α)}
    (h : (ofList pairs).length = pairs.length) : (keys pairs).Nodup := by
  have hsub : keys (ofList pairs) ⊆ keys pairs := fun _ hk => mem_keys_ofList.mp hk
  have hperm : (keys (ofList pairs)).Perm (keys pairs) :=
    ((nodup_keys_ofList pairs).subperm hsub).perm_of_length_le (by simp [keys, h])
  exact hperm.nodup_iff.mp (nodup_keys_ofList pairs)

/-- A map built from pairs holds the last pair of each key. -/
theorem mem_ofList_iff {pairs : List (κ × α)} {p : κ × α} :
    p ∈ ofList pairs ↔ ∃ before after, pairs = before ++ p :: after ∧ p.1 ∉ keys after := by
  induction pairs using List.reverseRecOn with
  | nil => simp
  | append_singleton pairs q ih =>
      rw [ofList_append_singleton, mem_put_iff (nodup_keys_ofList pairs), ih]
      constructor
      · rintro (rfl | ⟨⟨before, after, rfl, hlast⟩, hne⟩)
        · exact ⟨pairs, [], rfl, by simp⟩
        · refine ⟨before, after ++ [q], by simp, ?_⟩
          simpa [keys, hne] using hlast
      · rintro ⟨before, after, heq, hlast⟩
        rcases List.eq_nil_or_concat after with rfl | ⟨after, r, rfl⟩
        · obtain ⟨-, hp⟩ := List.append_inj' heq rfl
          exact .inl (List.cons.inj hp).1.symm
        · rw [List.concat_eq_append, ← List.cons_append, ← List.append_assoc] at heq
          obtain ⟨rfl, hr⟩ := List.append_inj' heq rfl
          obtain rfl : q = r := (List.cons.inj hr).1
          have hsplit : p.1 ∉ keys after ∧ p.1 ≠ q.1 := by simpa [keys] using hlast
          exact .inr ⟨⟨before, after, rfl, hsplit.1⟩, hsplit.2⟩

/-- The first of some pairs is held unless its key comes again. -/
theorem mem_ofList_cons_iff {q : κ × α} {pairs : List (κ × α)} {p : κ × α} :
    p ∈ ofList (q :: pairs) ↔ (p = q ∧ q.1 ∉ keys pairs) ∨ p ∈ ofList pairs := by
  rw [mem_ofList_iff, mem_ofList_iff]
  constructor
  · rintro ⟨before, after, heq, hlast⟩
    cases before with
    | nil =>
        obtain ⟨rfl, rfl⟩ := List.cons.inj heq
        exact .inl ⟨rfl, hlast⟩
    | cons r before =>
        obtain ⟨-, rfl⟩ := List.cons.inj heq
        exact .inr ⟨before, after, rfl, hlast⟩
  · rintro (⟨rfl, hlast⟩ | ⟨before, after, rfl, hlast⟩)
    · exact ⟨[], pairs, rfl, hlast⟩
    · exact ⟨q :: before, after, rfl, hlast⟩

theorem mem_of_mem_ofList {pairs : List (κ × α)} {p : κ × α} (h : p ∈ ofList pairs) :
    p ∈ pairs := by
  obtain ⟨before, after, rfl, -⟩ := mem_ofList_iff.mp h
  simp

/-- What the second of two lists of pairs says of a key counts, and else what the first says. -/
theorem mem_ofList_append_iff {pairs pairs' : List (κ × α)} {p : κ × α} :
    p ∈ ofList (pairs ++ pairs') ↔
      p ∈ ofList pairs' ∨ (p.1 ∉ keys pairs' ∧ p ∈ ofList pairs) := by
  induction pairs with
  | nil => simp
  | cons q pairs ih =>
      have hkeys : keys (pairs ++ pairs') = keys pairs ++ keys pairs' := List.map_append
      rw [List.cons_append, mem_ofList_cons_iff, mem_ofList_cons_iff, ih, hkeys, List.mem_append]
      constructor
      · rintro (⟨rfl, hlast⟩ | hlater | ⟨hnot, hfirst⟩)
        · obtain ⟨hpairs, hpairs'⟩ := not_or.mp hlast
          exact .inr ⟨hpairs', .inl ⟨rfl, hpairs⟩⟩
        · exact .inl hlater
        · exact .inr ⟨hnot, .inr hfirst⟩
      · rintro (hlater | ⟨hnot, ⟨rfl, hlast⟩ | hfirst⟩)
        · exact .inr (.inl hlater)
        · exact .inl ⟨rfl, not_or.mpr ⟨hlast, hnot⟩⟩
        · exact .inr (.inr ⟨hnot, hfirst⟩)

/-- Of several lists of pairs, each of which stands for something, the last that says something of a key
counts. -/
theorem exists_last_of_forall₂ {ι : Type _} {R : ι → List (κ × α) → Prop} {f : ι → Bool}
    {bs : List ι} {layers : List (List (κ × α))} {p : κ × α}
    (hf : ∀ b layer, R b layer → (f b = true ↔ p.1 ∈ keys layer))
    (hlayers : List.Forall₂ R bs layers) (h : p ∈ ofList layers.flatten) :
    ∃ b layer, bs.reverse.find? f = some b ∧ R b layer ∧ p ∈ layer := by
  induction hlayers with
  | nil => exact absurd h List.not_mem_nil
  | @cons b layer bs layers hlayer hlayers ih =>
      rw [List.flatten_cons, mem_ofList_append_iff] at h
      rw [List.reverse_cons, List.find?_append]
      rcases h with hlater | ⟨hnot, hfirst⟩
      · obtain ⟨b', layer', hfind, hlayer', hmem⟩ := ih hlater
        exact ⟨b', layer', by rw [hfind, Option.some_or], hlayer', hmem⟩
      · have hmem : p ∈ layer := mem_of_mem_ofList hfirst
        have hnone : bs.reverse.find? f = none := by
          rw [List.find?_eq_none]
          intro b' hmem' hb'
          refine hnot ?_
          obtain ⟨layer', hlayer', hR⟩ := exists_of_forall₂ hlayers.flip (List.mem_reverse.mp hmem')
          obtain ⟨q, hq, hqp⟩ := List.mem_map.mp ((hf b' layer' hR).mp hb')
          exact hqp ▸ mem_keys_of_mem (List.mem_flatten.mpr ⟨layer', hlayer', hq⟩)
        have hb : f b = true := (hf b layer hlayer).mpr (mem_keys_of_mem hmem)
        refine ⟨b, layer, ?_, hlayer, hmem⟩
        rw [hnone, Option.none_or, List.find?_singleton, if_pos hb]

/-- Of several lists of pairs the last that says something of a key counts. -/
theorem exists_last_of_mem_ofList {ι : Type _} {g : ι → List (κ × α)} {bs : List ι} {p : κ × α}
    (h : p ∈ ofList (bs.flatMap g)) :
    ∃ b, bs.reverse.find? (fun b => (keys (g b)).contains p.1) = some b ∧ p ∈ g b := by
  have hlayers : List.Forall₂ (fun b layer => layer = g b) bs (bs.map g) :=
    List.forall₂_map_right_iff.mpr (List.forall₂_same.mpr fun _ _ => rfl)
  obtain ⟨b, layer, hfind, rfl, hmem⟩ := exists_last_of_forall₂
    (f := fun b => (keys (g b)).contains p.1)
    (fun b layer hlayer => hlayer ▸ List.contains_iff_mem) hlayers h
  exact ⟨b, hfind, hmem⟩

end TypeSchema.OrderedMap
