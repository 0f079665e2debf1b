import TypeSchema.Proofs.Compile.Represents
/-!
# The invariant of compilations

A ledger is `Sound` when each class of the program in it is either *open*, its slot holding the
placeholder it was registered with, or finished, its slot holding an object that represents it
with references to flagged classes only. `Extends L L'` says what a compilation step may change:
it appends slots and types, leaves the node of every class that it found, finishes every class
of the program that it registers, and flags only classes that it found open or registered
itself.

The main statement is `Builds.sound`: along a derivation ledgers stay sound, the last extends the
first, and the result represents the task.
-/

namespace TypeSchema.Compile

variable {cat : Catalog} {L L₁ L' : Ledger TypeExpr}

/-- The class was met while it was under construction. -/
def Flagged (L : Ledger TypeExpr) (c : ClassRef) : Prop :=
  ∃ e, L.get? c.toExpr = some e ∧ e.recursive = true

/-- The node is a finished object of the class; its references are to flagged classes. -/
def Finished (cat : Catalog) (L : Ledger TypeExpr) (c : ClassRef) (n : Node) : Prop :=
  ∃ d fields built, cat.fieldsOf c = .ok fields ∧ n = objectNode cat c d built ∧
    Represents cat (Flagged L) (.members fields) (.members built)

/-- The ledgers that compilations reach. -/
structure Sound (cat : Catalog) (L : Ledger TypeExpr) : Prop where
  wellFormed : L.WellFormed
  class_of_key : ∀ {t e}, L.get? t = some e → ∃ c : ClassRef, t = c.toExpr
  id_eq : ∀ {c : ClassRef} {e}, L.get? c.toExpr = some e → e.id = cat.referenceId c.toExpr
  custom_of_flagged : ∀ {c}, Flagged L c → cat.isCustom c = true
  open_or_finished : ∀ {c : ClassRef} {e}, cat.isCustom c = true → L.get? c.toExpr = some e →
    L.node e = .reference (some e.id) ∨ Finished cat L c (L.node e)

/-- What a compilation step leaves as it was, and what it may add. -/
structure Extends (cat : Catalog) (L L' : Ledger TypeExpr) : Prop where
  arena : L.arena <+: L'.arena
  keys : L.keys <+: L'.keys
  /-- The entry of a class of the program stays, and is flagged only while the class is open. -/
  entry : ∀ {c : ClassRef} {e}, cat.isCustom c = true → L.get? c.toExpr = some e →
    ∃ flag, L'.get? c.toExpr = some { e with recursive := flag } ∧
      (e.recursive = true → flag = true) ∧
      (flag = true → e.recursive = true ∨ isReference (L.node e) = true)
  /-- A class of the program that is new is finished, in a slot that is new. -/
  finished : ∀ {c : ClassRef} {e}, cat.isCustom c = true → L.get? c.toExpr = none →
    L'.get? c.toExpr = some e → L.arena.length ≤ e.slot ∧ isReference (L'.node e) = false

@[simp] theorem isReference_objectNode (c : ClassRef) (d : Option Json)
    (built : List (String × Node)) : isReference (objectNode cat c d built) = false := rfl

theorem Finished.mono (hflag : ∀ c, Flagged L c → Flagged L' c) {c : ClassRef} {n : Node}
    (h : Finished cat L c n) : Finished cat L' c n := by
  obtain ⟨d, fields, built, hfields, hn, hbuilt⟩ := h
  exact ⟨d, fields, built, hfields, hn, hbuilt.mono hflag⟩

/-- A node that is no reference is the finished object of its class. -/
theorem Sound.finished_of_not_reference (h : Sound cat L) {c : ClassRef} {e : Entry}
    (hcustom : cat.isCustom c = true) (he : L.get? c.toExpr = some e)
    (href : isReference (L.node e) = false) : Finished cat L c (L.node e) := by
  rcases h.open_or_finished hcustom he with hopen | hfinished
  · exact absurd href (by simp [hopen, isReference])
  · exact hfinished

/-- A reference in the slot of a class is the placeholder the class was registered with. -/
theorem Sound.node_of_reference (h : Sound cat L) {c : ClassRef} {e : Entry}
    (hcustom : cat.isCustom c = true) (he : L.get? c.toExpr = some e)
    (href : isReference (L.node e) = true) :
    L.node e = .reference (some (cat.referenceId c.toExpr)) := by
  rcases h.open_or_finished hcustom he with hopen | ⟨d, fields, built, -, hn, -⟩
  · rw [hopen, h.id_eq he]
  · exact absurd href (by simp [hn])

theorem Sound.empty : Sound cat .empty where
  wellFormed := .empty
  class_of_key := fun h => absurd h (by simp)
  id_eq := fun h => absurd h (by simp)
  custom_of_flagged := fun ⟨_, h, _⟩ => absurd h (by simp)
  open_or_finished := fun _ h => absurd h (by simp)

/-! ## Extension is a preorder -/

theorem Extends.refl (L : Ledger TypeExpr) : Extends cat L L where
  arena := List.prefix_refl _
  keys := List.prefix_refl _
  entry := fun {_ e} _ he => ⟨e.recursive, he, id, .inl⟩
  finished := fun _ hnone he => absurd (hnone.symm.trans he) (by simp)

/-- The node of a class that a step found is the same afterwards, whether it is flagged or not. -/
theorem Extends.node_eq (h : Extends cat L L') (hL : L.WellFormed) {t : TypeExpr} {e : Entry}
    (he : L.get? t = some e) (flag : Bool) :
    L'.node { e with recursive := flag } = L.node e :=
  Ledger.node_eq_of_prefix h.arena (hL.slot_lt he) rfl

theorem Extends.trans (h : Extends cat L L₁) (h' : Extends cat L₁ L') (hL : L.WellFormed)
    (hL₁ : L₁.WellFormed) : Extends cat L L' where
  arena := h.arena.trans h'.arena
  keys := h.keys.trans h'.keys
  entry := by
    intro c e hcustom he
    obtain ⟨flag₁, he₁, hkept₁, hnew₁⟩ := h.entry hcustom he
    obtain ⟨flag, he', hkept, hnew⟩ := h'.entry hcustom he₁
    refine ⟨flag, he', fun hflag => hkept (hkept₁ hflag), fun hflag => ?_⟩
    rcases hnew hflag with hflag₁ | href
    · exact hnew₁ hflag₁
    · exact .inr (h.node_eq hL he flag₁ ▸ href)
  finished := by
    intro c e hcustom hnone he
    cases he₁ : L₁.get? c.toExpr with
    -- The class was registered in the second step, or in the first and kept by the second.
    | none =>
        obtain ⟨hslot, href⟩ := h'.finished hcustom he₁ he
        exact ⟨Nat.le_trans h.arena.length_le hslot, href⟩
    | some e₁ =>
        obtain ⟨hslot, href⟩ := h.finished hcustom hnone he₁
        obtain ⟨flag, he', -, -⟩ := h'.entry hcustom he₁
        obtain rfl := Option.some.inj (he.symm.trans he')
        exact ⟨hslot, h'.node_eq hL₁ he₁ flag ▸ href⟩

/-- Flags are kept. -/
theorem Extends.flagged (h : Extends cat L L') (hL : Sound cat L) {c : ClassRef}
    (hc : Flagged L c) : Flagged L' c := by
  obtain ⟨e, he, hflag⟩ := hc
  obtain ⟨flag, he', hkept, -⟩ := h.entry (hL.custom_of_flagged ⟨e, he, hflag⟩) he
  exact ⟨_, he', hkept hflag⟩

/-! ## Meeting a class under construction -/

theorem Flagged.setRecursive {t : TypeExpr} {c : ClassRef} (h : Flagged L c) :
    Flagged (L.setRecursive t true) c := by
  obtain ⟨e, he, hflag⟩ := h
  by_cases hct : c.toExpr = t
  · subst hct
    exact ⟨_, Ledger.get?_setRecursive_self he true, rfl⟩
  · exact ⟨e, (Ledger.get?_setRecursive_of_ne hct L true).trans he, hflag⟩

/-- Marking flags one class and no other. -/
theorem Flagged.of_setRecursive {c c' : ClassRef} (h : Flagged (L.setRecursive c.toExpr true) c') :
    c' = c ∨ Flagged L c' := by
  obtain ⟨e, he, hflag⟩ := h
  obtain ⟨e₀, he₀, rfl⟩ := Ledger.get?_setRecursive_eq_some he
  by_cases hcc : c'.toExpr = c.toExpr
  · exact .inl (ClassRef.toExpr_inj hcc)
  · exact .inr ⟨e₀, he₀, by simpa [hcc] using hflag⟩

theorem Sound.setRecursive (h : Sound cat L) {c : ClassRef} (hcustom : cat.isCustom c = true) :
    Sound cat (L.setRecursive c.toExpr true) where
  wellFormed := h.wellFormed.setRecursive _ _
  class_of_key := by
    intro t e he
    obtain ⟨e₀, he₀, -⟩ := Ledger.get?_setRecursive_eq_some he
    exact h.class_of_key he₀
  id_eq := by
    intro c' e he
    obtain ⟨e₀, he₀, rfl⟩ := Ledger.get?_setRecursive_eq_some he
    have hid := h.id_eq he₀
    exact hid
  custom_of_flagged := by
    intro c' hc'
    rcases hc'.of_setRecursive with rfl | hc'
    · exact hcustom
    · exact h.custom_of_flagged hc'
  open_or_finished := by
    intro c' e hcustom' he
    obtain ⟨e₀, he₀, rfl⟩ := Ledger.get?_setRecursive_eq_some he
    rcases h.open_or_finished hcustom' he₀ with hopen | hfinished
    · exact .inl (by simpa [Ledger.node] using hopen)
    · exact .inr ((by simpa [Ledger.node] using hfinished : Finished cat L c' _).mono
        fun _ => Flagged.setRecursive)

theorem extends_setRecursive {c : ClassRef} {e : Entry} (he : L.get? c.toExpr = some e)
    (href : isReference (L.node e) = true) : Extends cat L (L.setRecursive c.toExpr true) where
  arena := by simp
  keys := by simp
  entry := by
    intro c' e' _ he'
    by_cases hcc : c'.toExpr = c.toExpr
    · rw [hcc] at he' ⊢
      obtain rfl := Option.some.inj (he'.symm.trans he)
      exact ⟨true, Ledger.get?_setRecursive_self he' true, fun _ => rfl, fun _ => .inr href⟩
    · exact ⟨e'.recursive, (Ledger.get?_setRecursive_of_ne hcc L true).trans he', id, .inl⟩
  finished := by
    intro c' e' _ hnone he'
    obtain ⟨e₀, he₀, -⟩ := Ledger.get?_setRecursive_eq_some he'
    exact absurd (hnone.symm.trans he₀) (by simp)

/-! ## Building a class -/

section Fresh

variable {c : ClassRef}

theorem get?_opened_self (cat : Catalog) (c : ClassRef) (L : Ledger TypeExpr) :
    (opened cat c L).get? c.toExpr = some (newEntry cat c L) :=
  Ledger.get?_register_self _ _ _

theorem get?_opened_of_ne {t : TypeExpr} (h : t ≠ c.toExpr) :
    (opened cat c L).get? t = L.get? t :=
  Ledger.get?_register_of_ne h _ _

@[simp] theorem arena_opened : (opened cat c L).arena =
    L.arena ++ [.reference (some (cat.referenceId c.toExpr))] := rfl

/-- The slot of a class that was just registered holds the placeholder. -/
theorem node_opened_self (cat : Catalog) (c : ClassRef) (L : Ledger TypeExpr) :
    (opened cat c L).node (newEntry cat c L) = .reference (some (cat.referenceId c.toExpr)) :=
  Ledger.node_register_self _ _ _

theorem node_opened {t : TypeExpr} {e : Entry} (hL : L.WellFormed) (he : L.get? t = some e) :
    (opened cat c L).node e = L.node e :=
  Ledger.node_eq_of_prefix (List.prefix_append _ _) (hL.slot_lt he) rfl

/-- A class that is about to be built is not flagged. -/
theorem Sound.not_flagged (h : Sound cat L)
    (hnew : cat.isCustom c = true → L.get? c.toExpr = none) : ¬Flagged L c := by
  rintro ⟨e, he, hflag⟩
  exact absurd ((hnew (h.custom_of_flagged ⟨e, he, hflag⟩)).symm.trans he) (by simp)

theorem Sound.flagged_opened (h : Sound cat L)
    (hnew : cat.isCustom c = true → L.get? c.toExpr = none) {c' : ClassRef} :
    Flagged (opened cat c L) c' ↔ Flagged L c' := by
  by_cases hcc : c' = c
  · subst hcc
    constructor
    · rintro ⟨e, he, hflag⟩
      rw [get?_opened_self] at he
      exact absurd hflag (by simp [← Option.some.inj he, newEntry])
    · exact fun hc => absurd hc (h.not_flagged hnew)
  · simp [Flagged, get?_opened_of_ne fun heq => hcc (ClassRef.toExpr_inj heq)]

theorem Sound.opened (h : Sound cat L)
    (hnew : cat.isCustom c = true → L.get? c.toExpr = none) : Sound cat (opened cat c L) where
  wellFormed := h.wellFormed.register _ _
  class_of_key := by
    intro t e he
    by_cases htc : t = c.toExpr
    · exact ⟨c, htc⟩
    · exact h.class_of_key ((get?_opened_of_ne htc).symm.trans he)
  id_eq := by
    intro c' e he
    by_cases hcc : c'.toExpr = c.toExpr
    · rw [hcc, get?_opened_self] at he
      rw [hcc, ← Option.some.inj he, newEntry]
    · exact h.id_eq ((get?_opened_of_ne hcc).symm.trans he)
  custom_of_flagged := fun hc => h.custom_of_flagged ((h.flagged_opened hnew).mp hc)
  open_or_finished := by
    intro c' e hcustom he
    by_cases hcc : c'.toExpr = c.toExpr
    · rw [hcc, get?_opened_self] at he
      obtain rfl := Option.some.inj he
      exact .inl (node_opened_self cat c L)
    · rw [get?_opened_of_ne hcc] at he
      rw [node_opened h.wellFormed he]
      exact (h.open_or_finished hcustom he).imp_right fun hfinished =>
        hfinished.mono fun _ hc => (h.flagged_opened hnew).mpr hc

/-- While a class is being built, its slot belongs to no other class of the program. -/
theorem slot_ne_newEntry (hL : L.WellFormed) (hext : Extends cat (Compile.opened cat c L) L₁)
    {c' : ClassRef} {e : Entry} (hne : c' ≠ c) (hcustom : cat.isCustom c' = true)
    (he : L₁.get? c'.toExpr = some e) : e.slot ≠ (newEntry cat c L).slot := by
  have hkey : c'.toExpr ≠ c.toExpr := fun heq => hne (ClassRef.toExpr_inj heq)
  cases hold : L.get? c'.toExpr with
  -- A class that is new has a slot above the new one, a class that was there has one below.
  | none =>
      have hslot := (hext.finished hcustom ((get?_opened_of_ne hkey).trans hold) he).1
      simp only [arena_opened, List.length_append, List.length_singleton] at hslot
      simp only [newEntry]
      omega
  | some e₀ =>
      obtain ⟨flag, he', -, -⟩ := hext.entry hcustom ((get?_opened_of_ne hkey).trans hold)
      obtain rfl := Option.some.inj (he.symm.trans he')
      have hslot := hL.slot_lt hold
      simp only [newEntry]
      omega

/-- The class that is being built keeps the slot that it was opened with. -/
theorem slot_of_opened (hext : Extends cat (Compile.opened cat c L) L₁)
    (hcustom : cat.isCustom c = true) {e : Entry} (he : L₁.get? c.toExpr = some e) :
    e.slot = (newEntry cat c L).slot := by
  obtain ⟨flag, he', -, -⟩ := hext.entry hcustom (get?_opened_self cat c L)
  obtain rfl := Option.some.inj (he.symm.trans he')
  rfl

/-- What is stored for the class is found under its entry. -/
theorem node_stored (hL₁ : Sound cat L₁) (hext : Extends cat (Compile.opened cat c L) L₁)
    (hcustom : cat.isCustom c = true) {e : Entry} (he : L₁.get? c.toExpr = some e) (n : Node) :
    (L₁.store (newEntry cat c L) n).node e = n := by
  have hstore : L₁.store (newEntry cat c L) n = L₁.store e n := by
    rw [Ledger.store, Ledger.store, slot_of_opened hext hcustom he]
  rw [hstore, Ledger.node_store_self _ _ (hL₁.wellFormed.slot_lt he)]

theorem extends_store (h : Sound cat L) (hnew : cat.isCustom c = true → L.get? c.toExpr = none)
    (hext : Extends cat (Compile.opened cat c L) L₁) (hL₁ : Sound cat L₁) {n : Node}
    (hn : isReference n = false) : Extends cat L (L₁.store (newEntry cat c L) n) where
  arena := by
    obtain ⟨rest, hrest⟩ := (List.prefix_append _ _).trans hext.arena
    refine ⟨rest.set 0 n, ?_⟩
    simp [← hrest, newEntry]
  keys := by
    have hkeys : L.keys <+: (Compile.opened cat c L).keys := by
      rw [Compile.opened, Ledger.keys_register]
      split
      · exact List.prefix_refl _
      · exact List.prefix_append _ _
    exact hkeys.trans hext.keys
  entry := by
    intro c' e hcustom he
    have hkey : c'.toExpr ≠ c.toExpr := by
      intro heq
      obtain rfl := ClassRef.toExpr_inj heq
      exact absurd ((hnew hcustom).symm.trans he) (by simp)
    obtain ⟨flag, he', hkept, hflag⟩ := hext.entry hcustom ((get?_opened_of_ne hkey).trans he)
    exact ⟨flag, he', hkept, fun hf => node_opened h.wellFormed he ▸ hflag hf⟩
  finished := by
    intro c' e hcustom hnone he
    rw [Ledger.get?_store] at he
    by_cases hcc : c' = c
    · subst hcc
      rw [node_stored hL₁ hext hcustom he]
      exact ⟨Nat.le_of_eq (slot_of_opened hext hcustom he).symm, hn⟩
    · have hkey : c'.toExpr ≠ c.toExpr := fun heq => hcc (ClassRef.toExpr_inj heq)
      obtain ⟨hslot, href⟩ :=
        hext.finished hcustom ((get?_opened_of_ne hkey).trans hnone) he
      rw [Ledger.node_store_of_ne (slot_ne_newEntry h.wellFormed hext hcc hcustom he)]
      exact ⟨Nat.le_trans (by simp) hslot, href⟩

theorem Sound.store (h : Sound cat L) (hext : Extends cat (Compile.opened cat c L) L₁)
    (hL₁ : Sound cat L₁) {n : Node} (hn : Finished cat L₁ c n) :
    Sound cat (L₁.store (newEntry cat c L) n) where
  wellFormed := hL₁.wellFormed.store _ _
  class_of_key := hL₁.class_of_key
  id_eq := hL₁.id_eq
  custom_of_flagged := hL₁.custom_of_flagged
  open_or_finished := by
    intro c' e hcustom he
    rw [Ledger.get?_store] at he
    by_cases hcc : c' = c
    · subst hcc
      rw [node_stored hL₁ hext hcustom he]
      exact .inr hn
    · rw [Ledger.node_store_of_ne (slot_ne_newEntry h.wellFormed hext hcc hcustom he)]
      exact hL₁.open_or_finished hcustom he

end Fresh

/-! ## Derivations keep the invariant -/

/-- Along a derivation ledgers stay sound, the last extends the first, and the result represents
the task with references to classes that are flagged in the end. -/
theorem Builds.sound {room : Nat} {task : Task} {result : Result}
    (h : Builds cat room L task result L') (hL : Sound cat L) :
    Sound cat L' ∧ Extends cat L L' ∧ Represents cat (Flagged L') task result := by
  induction h with
  | scalar hform => exact ⟨hL, .refl _, .scalar hform⟩
  | array hform _ ih =>
      obtain ⟨hL', hext, hn⟩ := ih hL
      exact ⟨hL', hext, .array hform hn⟩
  | object hform _ ih =>
      obtain ⟨hL', hext, hn⟩ := ih hL
      exact ⟨hL', hext, .object hform hn⟩
  | placeholder hcustom he href =>
      refine ⟨hL.setRecursive hcustom, extends_setRecursive he href, ?_⟩
      rw [hL.node_of_reference hcustom he href]
      exact .reference ⟨_, Ledger.get?_setRecursive_self he true, rfl⟩
  | reuse hcustom he href =>
      obtain ⟨d, fields, built, hfields, hn, hbuilt⟩ :=
        hL.finished_of_not_reference hcustom he href
      refine ⟨hL, .refl _, ?_⟩
      rw [hn]
      exact .inline hfields hbuilt
  | fresh hnew hfields _ ih =>
      obtain ⟨hL₁, hext, hbuilt⟩ := ih (hL.opened hnew)
      exact ⟨hL.store hext hL₁ ⟨_, _, _, hfields, rfl, hbuilt⟩,
        extends_store hL hnew hext hL₁ rfl, .inline hfields hbuilt⟩
  | nil => exact ⟨hL, .refl _, .nil⟩
  | cons _ _ ihn ihs =>
      obtain ⟨hL₁, hext₁, hn⟩ := ihn hL
      obtain ⟨hL', hext, hbuilt⟩ := ihs hL₁
      refine ⟨hL', hext₁.trans hext hL.wellFormed hL₁.wellFormed, .cons (hn.mono ?_) hbuilt⟩
      exact fun _ hc => hext.flagged hL₁ hc

/-! ## The end of a compilation -/

/-- A compilation that is over has finished every class of the program that it met. -/
structure Complete (cat : Catalog) (L : Ledger TypeExpr) : Prop where
  sound : Sound cat L
  finished : ∀ {c : ClassRef} {e}, cat.isCustom c = true → L.get? c.toExpr = some e →
    Finished cat L c (L.node e)

theorem Builds.complete {room : Nat} {task : Task} {result : Result}
    (h : Builds cat room .empty task result L) : Complete cat L := by
  obtain ⟨hL, hext, -⟩ := h.sound .empty
  exact ⟨hL, fun hcustom he =>
    hL.finished_of_not_reference hcustom he (hext.finished hcustom rfl he).2⟩

theorem Sound.flagged_of_mem (h : Sound cat L) {e : Entry} (he : e ∈ L.recursiveEntries) :
    ∃ c : ClassRef, L.get? c.toExpr = some e ∧ Flagged L c := by
  obtain ⟨t, ht, hflag⟩ := h.wellFormed.mem_recursiveEntries_iff.mp he
  obtain ⟨c, rfl⟩ := h.class_of_key ht
  exact ⟨c, ht, e, ht, hflag⟩

/-- Where no two flagged classes share an identifier, the identifier tells the class. -/
theorem Sound.eq_of_referenceId (h : Sound cat L)
    (hids : (L.recursiveEntries.map (·.id)).Nodup) {c c' : ClassRef} (hc : Flagged L c)
    (hc' : Flagged L c') (hid : cat.referenceId c.toExpr = cat.referenceId c'.toExpr) :
    c = c' := by
  obtain ⟨e, he, hflag⟩ := hc
  obtain ⟨e', he', hflag'⟩ := hc'
  have hmem := h.wellFormed.mem_recursiveEntries_iff.mpr ⟨_, he, hflag⟩
  have hmem' := h.wellFormed.mem_recursiveEntries_iff.mpr ⟨_, he', hflag'⟩
  have heq : e = e' := List.inj_on_of_nodup_map hids hmem hmem'
    ((h.id_eq he).trans (hid.trans (h.id_eq he').symm))
  exact ClassRef.toExpr_inj (h.wellFormed.slot_inj he he' (congrArg Entry.slot heq))

/-- Every definition is the finished object of a flagged class, under the class's identifier. -/
theorem Complete.of_mem_definitions (h : Complete cat L) {id : String} {m : Node}
    (hm : (id, m) ∈ L.definitions) :
    ∃ c, Flagged L c ∧ id = cat.referenceId c.toExpr ∧ Finished cat L c m := by
  obtain ⟨e, he, heq⟩ := List.mem_map.mp (OrderedMap.mem_of_mem_ofList hm)
  obtain ⟨rfl, rfl⟩ := Prod.mk.inj heq
  obtain ⟨c, hget, hc⟩ := h.sound.flagged_of_mem he
  exact ⟨c, hc, h.sound.id_eq hget, h.finished (h.sound.custom_of_flagged hc) hget⟩

/-- A definition is an object that represents its class. -/
theorem Complete.represents_of_mem (h : Complete cat L) {id : String} {m : Node}
    (hm : (id, m) ∈ L.definitions) :
    ∃ c d built, m = objectNode cat c d built ∧
      Represents cat (Flagged L) (.object c none) (.node m) := by
  obtain ⟨c, -, -, d, fields, built, hfields, rfl, hbuilt⟩ := h.of_mem_definitions hm
  exact ⟨c, d, built, rfl, .inline hfields hbuilt⟩

/-- Every flagged class has a definition. -/
theorem Sound.mem_keys_definitions (h : Sound cat L) {c : ClassRef} (hc : Flagged L c) :
    cat.referenceId c.toExpr ∈ OrderedMap.keys L.definitions := by
  obtain ⟨e, he, hflag⟩ := hc
  refine OrderedMap.mem_keys_ofList.mpr (List.mem_map.mpr ⟨(e.id, L.node e), ?_, h.id_eq he⟩)
  exact List.mem_map.mpr
    ⟨e, h.wellFormed.mem_recursiveEntries_iff.mpr ⟨_, he, hflag⟩, rfl⟩

/-- Without flagged classes there are no definitions. -/
theorem definitions_eq_nil_iff : L.definitions = [] ↔ L.recursiveEntries = [] := by
  constructor
  · intro h
    rcases hentries : L.recursiveEntries with _ | ⟨e, rest⟩
    · rfl
    · have hkey : e.id ∈ OrderedMap.keys L.definitions :=
        OrderedMap.mem_keys_ofList.mpr (by simp [hentries])
      exact absurd hkey (by simp [h])
  · intro h
    simp [Ledger.definitions, h]

end TypeSchema.Compile
