import TypeSchema.Proofs.Declaration.Steps
/-!
# The order of ancestors

Every class of a program is followed by the merge of what its bases are followed by
(`Catalog.Step.add`). Where each class comes after its bases (`Catalog.Grounded`), the classes in the
order of a class were there before it, and the order of each of them is part of it
(`Catalog.Declared.linear`).
-/

namespace TypeSchema

/-! ## Merged orders -/

namespace Linearization

variable {α : Type} [BEq α]

/-- The next class stands in some list. -/
theorem exists_mem_of_next? {lists : List (List α)} {c : α} (h : next? lists = some c) :
    ∃ list ∈ lists, c ∈ list := by
  obtain ⟨list, hlist, hnext⟩ := List.exists_of_findSome?_eq_some h
  refine ⟨list, hlist, ?_⟩
  cases list with
  | nil => exact absurd hnext nofun
  | cons d rest =>
      dsimp only at hnext
      split at hnext
      · exact absurd hnext nofun
      · exact Option.some.inj hnext ▸ List.mem_cons_self

theorem mem_of_mem_dropHead {lists : List (List α)} {c : α} {list : List α}
    (hlist : list ∈ dropHead c lists) : ∃ list' ∈ lists, ∀ d ∈ list, d ∈ list' := by
  obtain ⟨list', hlist', rfl⟩ := List.mem_map.mp hlist
  refine ⟨list', hlist', fun d hd => ?_⟩
  cases list' with
  | nil => exact hd
  | cons e rest =>
      dsimp only at hd
      split at hd
      · exact List.mem_cons_of_mem e hd
      · exact hd

/-- Everything in a merge comes from one of the lists. -/
theorem exists_mem_of_mergeIn {steps : Nat} {lists : List (List α)} {merged : List α}
    (h : mergeIn steps lists = some merged) {d : α} (hd : d ∈ merged) :
    ∃ list ∈ lists, d ∈ list := by
  induction steps generalizing lists merged with
  | zero =>
      rw [mergeIn] at h
      split at h
      · exact absurd (Option.some.inj h ▸ hd) List.not_mem_nil
      · exact absurd h (by simp)
  | succ steps ih =>
      rw [mergeIn] at h
      split at h
      · exact absurd (Option.some.inj h ▸ hd) List.not_mem_nil
      · obtain ⟨c, hc, h⟩ := Option.bind_eq_some_iff.mp h
        obtain ⟨rest, hrest, h⟩ := Option.bind_eq_some_iff.mp h
        obtain rfl := Option.some.inj h
        rcases List.mem_cons.mp hd with rfl | hd
        · exact exists_mem_of_next? hc
        · obtain ⟨list, hlist, hmem⟩ := ih hrest hd
          obtain ⟨list', hlist', hsub⟩ := mem_of_mem_dropHead hlist
          exact ⟨list', hlist', hsub d hmem⟩

end Linearization

/-! ## The order of built-in classes -/

namespace Builtin

/-- What exceptions are followed by. -/
def exceptionOrders : List (List Builtin) :=
  [] :: [baseException] :: (exceptionGroups.map Prod.fst).map fun parent =>
    ofExceptionName parent :: exceptionAncestors 7 parent

theorem mem_of_exceptionParent? {name parent : String} (h : exceptionParent? name = some parent) :
    parent ∈ exceptionGroups.map Prod.fst := by
  obtain ⟨⟨group, children⟩, hgroup, hparent⟩ := List.exists_of_findSome?_eq_some h
  dsimp only at hparent
  split at hparent
  · exact Option.some.inj hparent ▸ List.mem_map_of_mem hgroup
  · exact absurd hparent nofun

theorem exceptionAncestors_mem (name : String) : exceptionAncestors 8 name ∈ exceptionOrders := by
  rw [exceptionAncestors]
  cases hparent : exceptionParent? name with
  | some parent =>
      refine List.mem_cons_of_mem _ (List.mem_cons_of_mem _ ?_)
      exact List.mem_map_of_mem (mem_of_exceptionParent? hparent)
  | none =>
      dsimp only
      split
      · exact List.mem_cons_of_mem _ List.mem_cons_self
      · exact List.mem_cons_self

theorem ancestors_other {name : String} (h : name ≠ "ExceptionGroup") :
    (other name).ancestors = exceptionAncestors 8 name ++ [object] := by
  rw [ancestors]
  exact h

/-- The ancestors of a built-in class are followed by all of their ancestors. -/
theorem ancestors_ancestors (b : Builtin) :
    ∀ b' ∈ b.ancestors, ∀ d ∈ b'.ancestors, d ∈ b.ancestors := by
  cases b with
  | creator m => cases m <;> decide
  | other name =>
      by_cases hname : name = "ExceptionGroup"
      · subst hname
        decide +kernel
      · have hexceptions : ∀ order ∈ exceptionOrders, ∀ b' ∈ order ++ [object],
            ∀ d ∈ b'.ancestors, d ∈ order ++ [object] := by decide +kernel
        rw [ancestors_other hname]
        exact hexceptions _ (exceptionAncestors_mem name)
  | _ => decide

end Builtin

/-! ## Classes that were there before -/

/-- A class that was there before the declared class with a number. -/
def ClassId.IsBefore (n : Nat) : ClassId → Prop
  | .builtin _ => True
  | .declared i => i < n

instance (n : Nat) : (id : ClassId) → Decidable (id.IsBefore n)
  | .builtin _ => inferInstanceAs (Decidable True)
  | .declared i => inferInstanceAs (Decidable (i < n))

theorem ClassId.IsBefore.trans {m n : Nat} {id : ClassId} (h : id.IsBefore m) (hmn : m ≤ n) :
    id.IsBefore n := by
  cases id with
  | builtin b => exact trivial
  | declared i => exact Nat.lt_of_lt_of_le h hmn

namespace Catalog

variable {cat cat' : Catalog} {n : Nat} {b c d : ClassRef}

/-- Each declared class comes after its bases. -/
def Grounded (cat : Catalog) : Prop :=
  ∀ i < cat.classes.length, ∀ b ∈ (cat.info (.declared i)).bases, b.id.IsBefore i

instance (cat : Catalog) : Decidable cat.Grounded :=
  inferInstanceAs (Decidable (∀ i < cat.classes.length, ∀ b ∈ _, _))

/-- Each declared class is followed by classes that were there before, among them the ancestors of
each. -/
structure Linear (cat : Catalog) : Prop where
  head {i : Nat} : i < cat.classes.length →
    (cat.info (.declared i)).mro.head? = some ⟨.declared i, []⟩
  earlier {i : Nat} : i < cat.classes.length →
    ∀ b ∈ (cat.info (.declared i)).mro.tail, b.id.IsBefore i
  nested {i : Nat} : i < cat.classes.length →
    ∀ b ∈ (cat.info (.declared i)).mro, ∀ d ∈ cat.mro b, d ∈ (cat.info (.declared i)).mro

theorem mro_eq_of_core (h : (cat'.info c.id).core = (cat.info c.id).core) :
    cat'.mro c = cat.mro c := by
  have hmro : (cat'.info c.id).mro = (cat.info c.id).mro := (congrArg ClassInfo.mro h :)
  rw [mro, mro, hmro]

/-- The ancestors of a built-in class are built in. -/
theorem isBefore_of_mem_mro_builtin {b : Builtin} (h : d ∈ (cat.info (.builtin b)).mro) :
    d.id.IsBefore n := by
  obtain ⟨b', -, rfl⟩ := List.mem_map.mp h
  exact trivial

/-- A class that was never declared has only a class of the language in its order. -/
theorem isBefore_of_mem_mro_undeclared {i : Nat} (hi : cat.classes.length ≤ i)
    (hd : d ∈ (cat.info (.declared i)).mro) : d.id.IsBefore n := by
  rw [info, List.getD_eq_default _ _ hi] at hd
  obtain rfl := List.mem_singleton.mp hd
  exact trivial

theorem Linear.isBefore_of_mem_tail (h : cat.Linear) {i : Nat}
    (hd : d ∈ (cat.info (.declared i)).mro.tail) : d.id.IsBefore i := by
  rcases Nat.lt_or_ge i cat.classes.length with hi | hi
  · exact h.earlier hi d hd
  · rw [info, List.getD_eq_default _ _ hi] at hd
    exact absurd hd List.not_mem_nil

/-- The ancestors of a class were there before every class after it. -/
theorem Linear.isBefore_of_mem_order (h : cat.Linear) {id : ClassId} (hid : id.IsBefore n)
    (hd : d ∈ (cat.info id).mro) : d.id.IsBefore n := by
  cases id with
  | builtin b => exact isBefore_of_mem_mro_builtin hd
  | declared i =>
      rcases Nat.lt_or_ge i cat.classes.length with hi | hi
      · obtain ⟨tail, horder⟩ := List.head?_eq_some_iff.mp (h.head hi)
        rw [horder] at hd
        rcases List.mem_cons.mp hd with rfl | hd
        · exact hid
        · exact (h.isBefore_of_mem_tail (by rwa [horder])).trans (Nat.le_of_lt hid)
      · exact isBefore_of_mem_mro_undeclared hi hd

theorem Linear.isBefore_of_mem_mro (h : cat.Linear) (hc : c.id.IsBefore n) (hd : d ∈ cat.mro c) :
    d.id.IsBefore n := by
  unfold mro at hd
  split at hd
  · exact h.isBefore_of_mem_order hc hd
  · rcases List.mem_cons.mp hd with rfl | hd
    · exact hc
    · exact h.isBefore_of_mem_order hc hd

/-- No class is derived from one that is not there yet. -/
theorem Linear.isBefore_next (h : cat.Linear) {id : ClassId} (hd : d ∈ (cat.info id).mro) :
    d.id.IsBefore cat.classes.length := by
  cases id with
  | builtin b => exact isBefore_of_mem_mro_builtin hd
  | declared i =>
      rcases Nat.lt_or_ge i cat.classes.length with hi | hi
      · have hid : ClassId.IsBefore cat.classes.length (.declared i) := hi
        exact h.isBefore_of_mem_order hid hd
      · exact isBefore_of_mem_mro_undeclared hi hd

/-- The ancestors of an ancestor are ancestors. -/
theorem Linear.mem_mro (h : cat.Linear) (hc : c.id.IsBefore cat.classes.length)
    (hb : b ∈ cat.mro c) (hd : d ∈ cat.mro b) : d ∈ cat.mro c := by
  have horder : b ∈ (cat.info c.id).mro → d ∈ (cat.info c.id).mro := by
    intro hb
    cases hid : c.id with
    | declared i =>
        rw [hid] at hc hb
        exact h.nested hc b hb d hd
    | builtin a =>
        rw [hid] at hb
        obtain ⟨b', hb', rfl⟩ := List.mem_map.mp hb
        obtain ⟨d', hd', rfl⟩ := List.mem_map.mp hd
        refine List.mem_map_of_mem ?_
        rcases List.mem_cons.mp hb' with rfl | hb'
        · exact hd'
        rcases List.mem_cons.mp hd' with rfl | hd'
        · exact List.mem_cons_of_mem a hb'
        · exact List.mem_cons_of_mem a (a.ancestors_ancestors b' hb' d' hd')
  rw [mro] at hb ⊢
  split at hb
  · next hargs =>
    rw [if_pos hargs]
    exact horder hb
  · next hargs =>
    rw [if_neg hargs]
    rcases List.mem_cons.mp hb with rfl | hb
    · rwa [mro, if_neg hargs] at hd
    · exact List.mem_cons_of_mem c (horder hb)

/-! ## The steps of a program -/

/-- A class that is made a dataclass, or another one, stays what it is otherwise. -/
theorem exists_core_info_of_decorate {fields : List DataField}
    (h : cat'.cores = cat.cores.modify n (ClassInfo.withDataFields fields)) (id : ClassId) :
    ∃ data, (cat'.info id).core = { (cat.info id).core with dataFields := data } := by
  cases id with
  | builtin b => exact ⟨_, rfl⟩
  | declared i =>
      by_cases hi : i = n
      · subst hi
        rcases core_info_of_modify_self h with hdata | ⟨hsame, -⟩
        · exact ⟨_, hdata⟩
        · exact ⟨_, hsame⟩
      · exact ⟨_, core_info_of_modify h hi⟩

theorem Step.length_le (h : Step cat cat') : cat.classes.length ≤ cat'.classes.length := by
  rw [← length_cores, ← length_cores]
  cases h with
  | keep hcores => exact Nat.le_of_eq (by rw [hcores])
  | add info _ _ hcores =>
      rw [hcores, List.length_append]
      exact Nat.le_add_right _ _
  | decorate m options fields _ _ hcores => exact Nat.le_of_eq (by rw [hcores, List.length_modify])

/-- A class that is there stays what it is, unless it becomes a dataclass. -/
theorem Step.exists_core_info (h : Step cat cat') {i : Nat} (hi : i < cat.classes.length) :
    ∃ data, (cat'.info (.declared i)).core =
      { (cat.info (.declared i)).core with dataFields := data } := by
  cases h with
  | keep hcores => exact ⟨_, core_info_of_cores hcores _⟩
  | add info _ _ hcores => exact ⟨_, core_info_of_add hcores (length_cores cat ▸ hi)⟩
  | decorate m options fields _ _ hcores => exact exists_core_info_of_decorate hcores _

/-- The classes before were grounded if the classes are. -/
theorem Grounded.of_step (h : cat'.Grounded) (hstep : Step cat cat') : cat.Grounded := by
  intro i hi b hb
  obtain ⟨data, hcore⟩ := hstep.exists_core_info hi
  have hbases : (cat'.info (.declared i)).bases = (cat.info (.declared i)).bases :=
    (congrArg ClassInfo.bases hcore :)
  exact h i (Nat.lt_of_lt_of_le hi hstep.length_le) b (hbases.symm ▸ hb)

/-- Where no order changes, the classes stay as well ordered. -/
theorem Linear.of_mro (h : cat.Linear) (hlength : cat'.classes.length = cat.classes.length)
    (hmro : ∀ id, (cat'.info id).mro = (cat.info id).mro) : cat'.Linear where
  head hi := (hmro _).symm ▸ h.head (hlength ▸ hi)
  earlier hi := (hmro _).symm ▸ h.earlier (hlength ▸ hi)
  nested hi b hb d hd := by
    rw [mro, hmro] at hd
    rw [hmro] at hb ⊢
    exact h.nested (hlength ▸ hi) b hb d hd

/-- In its order a class is followed by its bases and by what they are followed by. -/
theorem exists_ancestors_of_searchOrder {bases order : List ClassRef}
    (h : cat.searchOrder c bases = .ok order) : ∃ ancestors, order = c :: ancestors ∧
      (∀ b ∈ ancestors, ∃ base ∈ basesOrObject bases, b = base ∨ b ∈ cat.mro base) ∧
      ∀ base ∈ basesOrObject bases, ∀ d ∈ cat.mro base, d ∈ ancestors := by
  obtain ⟨-, hmerged⟩ := searchOrder_eq_ok_iff.mp h
  obtain ⟨merged, hmerge, rfl⟩ := Option.map_eq_some_iff.mp hmerged
  refine ⟨merged, rfl, fun b hb => ?_, fun base hbase => ?_⟩
  · obtain ⟨list, hlist, hmem⟩ := Linearization.exists_mem_of_mergeIn hmerge hb
    rcases List.mem_append.mp hlist with hlist | hlist
    · rw [List.map_map] at hlist
      obtain ⟨base, hbase, rfl⟩ := List.mem_map.mp hlist
      exact ⟨base, hbase, .inr hmem⟩
    · obtain rfl := List.mem_singleton.mp hlist
      rw [List.map_map] at hmem
      obtain ⟨base, hbase, rfl⟩ := List.mem_map.mp hmem
      exact ⟨base, hbase, .inl rfl⟩
  · have hlist : cat.mro base ∈
        ((basesOrObject bases).map fun b => (b, cat.mro b)).map Prod.snd := by
      rw [List.map_map]
      exact List.mem_map_of_mem hbase
    exact (Linearization.sublist_of_merge hmerge (List.mem_append_left _ hlist)).subset

theorem isBefore_of_mem_basesOrObject {bases : List ClassRef} (h : ∀ b ∈ bases, b.id.IsBefore n) :
    ∀ b ∈ basesOrObject bases, b.id.IsBefore n := by
  intro b hb
  unfold basesOrObject at hb
  split at hb
  · exact List.mem_singleton.mp hb ▸ trivial
  · exact h b hb

/-- What follows a class, all of whose bases are there, was there before it, and is closed under
ancestors. -/
theorem Linear.exists_ancestors (h : cat.Linear) {bases order : List ClassRef}
    (hbases : ∀ b ∈ bases, b.id.IsBefore cat.classes.length)
    (horder : cat.searchOrder c bases = .ok order) :
    ∃ ancestors, order = c :: ancestors ∧
      (∀ b ∈ ancestors, b.id.IsBefore cat.classes.length) ∧
      ∀ b ∈ ancestors, ∀ d ∈ cat.mro b, d ∈ ancestors := by
  have hlisted := isBefore_of_mem_basesOrObject hbases
  obtain ⟨ancestors, heq, hfrom, hto⟩ := exists_ancestors_of_searchOrder horder
  refine ⟨ancestors, heq, fun b hb => ?_, fun b hb d hd => ?_⟩
  · obtain ⟨base, hbase, rfl | hmem⟩ := hfrom b hb
    · exact hlisted b hbase
    · exact h.isBefore_of_mem_mro (hlisted base hbase) hmem
  · obtain ⟨base, hbase, rfl | hmem⟩ := hfrom b hb
    · exact hto b hbase d hd
    · exact hto base hbase d (h.mem_mro (hlisted base hbase) hmem hd)

section Add

variable {info : ClassInfo} (hcores : cat'.cores = cat.cores ++ [info.core])

include hcores

theorem mro_info_of_add {id : ClassId} (hid : id.IsBefore cat.classes.length) :
    (cat'.info id).mro = (cat.info id).mro := by
  cases id with
  | builtin b => rfl
  | declared i =>
      have hcore := core_info_of_add hcores (length_cores cat ▸ hid)
      exact (congrArg ClassInfo.mro hcore :)

theorem core_info_of_add_length :
    (cat'.info (.declared cat.classes.length)).core = info.core :=
  length_cores cat ▸ core_info_of_add_self hcores

theorem lt_or_eq_of_add {i : Nat} (hi : i < cat'.classes.length) :
    ClassId.IsBefore cat.classes.length (.declared i) ∨ i = cat.classes.length := by
  rw [← length_cores, hcores, List.length_append, length_cores] at hi
  exact Nat.lt_succ_iff_lt_or_eq.mp hi

/-- A class more, all of whose bases are there, is followed by classes that were there before it,
among them the ancestors of each. -/
theorem Linear.of_add (h : cat.Linear)
    (hbases : ∀ b ∈ info.bases, b.id.IsBefore cat.classes.length)
    (horder : cat.searchOrder ⟨.declared cat.classes.length, []⟩ info.bases = .ok info.mro) :
    cat'.Linear := by
  obtain ⟨ancestors, hinfo, hearlier, hnested⟩ := h.exists_ancestors hbases horder
  have hnew : (cat'.info (.declared cat.classes.length)).mro =
      ⟨.declared cat.classes.length, []⟩ :: ancestors :=
    (congrArg ClassInfo.mro (core_info_of_add_length hcores) :).trans hinfo
  have hmro {c : ClassRef} (hc : c.id.IsBefore cat.classes.length) : cat'.mro c = cat.mro c := by
    rw [mro, mro, mro_info_of_add hcores hc]
  -- The classes that were there before keep their orders. The new one comes before its ancestors.
  refine ⟨fun hi => ?_, fun hi => ?_, fun hi b hb d hd => ?_⟩
  · rcases lt_or_eq_of_add hcores hi with hi | rfl
    · rw [mro_info_of_add hcores hi]
      exact h.head hi
    · rw [hnew]
      rfl
  · rcases lt_or_eq_of_add hcores hi with hi | rfl
    · rw [mro_info_of_add hcores hi]
      exact h.earlier hi
    · rw [hnew]
      exact hearlier
  · rcases lt_or_eq_of_add hcores hi with hi | rfl
    · rw [mro_info_of_add hcores hi] at hb ⊢
      rw [hmro (h.isBefore_of_mem_order hi hb)] at hd
      exact h.nested hi b hb d hd
    · rw [hnew] at hb ⊢
      rcases List.mem_cons.mp hb with rfl | hb
      · exact hnew ▸ hd
      · rw [hmro (hearlier b hb)] at hd
        exact List.mem_cons_of_mem _ (hnested b hb d hd)

end Add

/-- A step leaves grounded classes well ordered. -/
theorem Linear.step (h : cat.Linear) (hstep : Step cat cat') (hgrounded : cat'.Grounded) :
    cat'.Linear := by
  cases hstep with
  | keep hcores =>
      refine h.of_mro ?_ fun id => (congrArg ClassInfo.mro (core_info_of_cores hcores id) :)
      rw [← length_cores, ← length_cores, hcores]
  | add info hnew horder hcores =>
      have hbases : (cat'.info (.declared cat.classes.length)).bases = info.bases :=
        (congrArg ClassInfo.bases (core_info_of_add_length hcores) :)
      refine h.of_add hcores (fun b hb => hgrounded cat.classes.length ?_ b (hbases ▸ hb)) horder
      rw [← length_cores, ← length_cores, hcores, List.length_append]
      exact Nat.lt_succ_self _
  | decorate n options fields hlast hfields hcores =>
      refine h.of_mro ?_ fun id => ?_
      · rw [← length_cores, ← length_cores, hcores, List.length_modify]
      · obtain ⟨data, hcore⟩ := exists_core_info_of_decorate hcores id
        exact (congrArg ClassInfo.mro hcore :)

/-- In a program each of whose classes comes after its bases, each class is followed by classes that
were there before, among them the ancestors of each. -/
theorem Evolves.linear (h : Evolves .empty cat) (hgrounded : cat.Grounded) : cat.Linear := by
  induction h with
  | refl => exact ⟨fun hi => absurd hi (Nat.not_lt_zero _), fun hi => absurd hi (Nat.not_lt_zero _),
      fun hi => absurd hi (Nat.not_lt_zero _)⟩
  | tail _ hstep ih => exact (ih (hgrounded.of_step hstep)).step hstep hgrounded

theorem Declared.linear (h : cat.Declared) (hgrounded : cat.Grounded) : cat.Linear :=
  Evolves.linear h.evolves hgrounded

end Catalog

end TypeSchema
