import TypeSchema.Proofs.Cycles
/-!
# Registrations

`Registers cat L task log` says which classes a task that finds the ledger `L` registers on the
way, in order and with repetitions. The log of a compilation accounts for the ledger it leaves
(`Records`): every registration takes a slot, the classes that are new are those of the log, and
a class of the program is in it once. A class is in the log exactly when the task reaches it
without passing through a class of the program that the ledger knew before
(`Records.mem_or_known`).
-/

namespace TypeSchema.Compile

/-- The classes that a task registers on the way. -/
inductive Registers (cat : Catalog) : Ledger TypeExpr → Task → List ClassRef → Prop
  | scalar {L t given n} : cat.form t given = .ok (.scalar n) →
      Registers cat L (.type t given) []
  | array {L t given item d log} : cat.form t given = .ok (.array item d) →
      Registers cat L (.type item none) log → Registers cat L (.type t given) log
  | object {L t given c d log} : cat.form t given = .ok (.object c d) →
      Registers cat L (.object c d) log → Registers cat L (.type t given) log
  /-- A class of the program that the ledger knows is handed out as it is. -/
  | known {L c d e} : cat.isCustom c = true → L.get? c.toExpr = some e →
      Registers cat L (.object c d) []
  | fresh {L c d fields log} : (cat.isCustom c = true → L.get? c.toExpr = none) →
      cat.fieldsOf c = .ok fields → Registers cat (opened cat c L) (.members fields) log →
      Registers cat L (.object c d) (c :: log)
  | nil {L} : Registers cat L (.members []) []
  /-- The members after the first find the ledger that the first leaves. -/
  | cons {room L L₁ f fields n log log'} : Registers cat L (.type f.type f.description) log →
      Builds cat room L (.type f.type f.description) (.node n) L₁ →
      Registers cat L₁ (.members fields) log' →
      Registers cat L (.members (f :: fields)) (log ++ log')

variable {cat : Catalog} {L L₁ L' : Ledger TypeExpr} {room : Nat} {task : Task}

/-- The ledger knows the class, and it belongs to the program. -/
def Known (cat : Catalog) (L : Ledger TypeExpr) (c : ClassRef) : Prop :=
  cat.isCustom c = true ∧ c ∈ visited L

/-- The task reaches the class without passing through a class of `S`. -/
def Task.ReachesPast (cat : Catalog) (S : ClassRef → Prop) (task : Task) (c : ClassRef) : Prop :=
  ∃ r, task.Leads cat r ∧ Relation.ReflTransGen (fun a b => Edge cat a b ∧ ¬S a) r c

/-- The log accounts for what a task adds to a ledger. -/
structure Records (cat : Catalog) (L : Ledger TypeExpr) (task : Task) (L' : Ledger TypeExpr)
    (log : List ClassRef) : Prop where
  visited_iff : ∀ {c}, c ∈ visited L' ↔ c ∈ visited L ∨ c ∈ log
  length_arena : L'.arena.length = L.arena.length + log.length
  once : ∀ {c}, cat.isCustom c = true → c ∈ log → c ∉ visited L ∧ log.count c = 1
  /-- The task leads into the log, or to what was known. -/
  leads : ∀ {c}, task.Leads cat c → c ∈ log ∨ Known cat L c
  /-- So do the edges from the classes of the log. -/
  edges : ∀ {c d}, c ∈ log → Edge cat c d → d ∈ log ∨ Known cat L d
  reached : ∀ {c}, c ∈ log → task.ReachesPast cat (Known cat L) c

theorem Task.ReachesPast.mono {S S' : ClassRef → Prop} {c : ClassRef}
    (h : task.ReachesPast cat S c) (hS : ∀ c, S' c → S c) : task.ReachesPast cat S' c := by
  obtain ⟨r, hr, hpath⟩ := h
  exact ⟨r, hr, Relation.ReflTransGen.mono (fun a b h => ⟨h.1, fun ha => h.2 (hS a ha)⟩) _ _ hpath⟩

/-- What is reached past the known classes is in the log or known. -/
theorem Records.mem_or_known {log : List ClassRef} (h : Records cat L task L' log) {c : ClassRef}
    (hc : task.ReachesPast cat (Known cat L) c) : c ∈ log ∨ Known cat L c := by
  obtain ⟨r, hr, hpath⟩ := hc
  induction hpath with
  | refl => exact h.leads hr
  | tail _ hstep ih => exact h.edges (ih.resolve_right hstep.2) hstep.1

/-! ## Logs grow with derivations -/

/-- A task that leads to known classes only registers nothing. -/
theorem Records.nil (hvisited : visited L' = visited L) (harena : L'.arena = L.arena)
    (hleads : ∀ c, task.Leads cat c → Known cat L c) : Records cat L task L' [] where
  visited_iff := by simp [hvisited]
  length_arena := by simp [harena]
  once := fun _ hc => absurd hc List.not_mem_nil
  leads := fun hc => .inr (hleads _ hc)
  edges := fun hc => absurd hc List.not_mem_nil
  reached := fun hc => absurd hc List.not_mem_nil

/-- A task that leads to the same classes as another has the same log. -/
theorem Records.of_leads {task' : Task} {log : List ClassRef} (h : Records cat L task L' log)
    (heq : ∀ c, task'.Leads cat c ↔ task.Leads cat c) : Records cat L task' L' log where
  visited_iff := h.visited_iff
  length_arena := h.length_arena
  once := h.once
  leads := fun hc => h.leads ((heq _).mp hc)
  edges := h.edges
  reached := by
    intro c hc
    obtain ⟨r, hr, hpath⟩ := h.reached hc
    exact ⟨r, (heq r).mpr hr, hpath⟩

theorem mem_visited_opened {c c' : ClassRef} :
    c' ∈ visited (opened cat c L) ↔ c' = c ∨ c' ∈ visited L := by
  rw [visited_opened, meet]
  by_cases hc : c ∈ visited L
  · rw [if_pos hc]
    exact ⟨.inr, fun h => h.elim (fun heq => heq ▸ hc) id⟩
  · rw [if_neg hc, List.mem_append, List.mem_singleton, or_comm]

section Fresh

variable {c : ClassRef} {fields : List SchemaField} {d : Option Json} {log : List ClassRef}

/-- Building a class adds the class in front of what its data members add. -/
theorem Records.fresh (h : Records cat (opened cat c L) (.members fields) L₁ log)
    (hnew : cat.isCustom c = true → L.get? c.toExpr = none) (hfields : cat.fieldsOf c = .ok fields)
    {n : Node} {e : Entry} : Records cat L (.object c d) (L₁.store e n) (c :: log) := by
  have hunknown : ¬Known cat L c := by
    rintro ⟨hcustom, hmem⟩
    obtain ⟨e, he⟩ := mem_visited_iff.mp hmem
    exact absurd ((hnew hcustom).symm.trans he) (by simp)
  -- What is known below the class is the class itself or was known above it.
  have hknown : ∀ {b}, b ∈ log ∨ Known cat (opened cat c L) b → b ∈ c :: log ∨ Known cat L b := by
    rintro b (hb | ⟨hcustom, hb⟩)
    · exact .inl (List.mem_cons_of_mem _ hb)
    · rcases mem_visited_opened.mp hb with rfl | hb
      · exact .inl List.mem_cons_self
      · exact .inr ⟨hcustom, hb⟩
  have hmore : ∀ a, Known cat L a → Known cat (opened cat c L) a :=
    fun a ha => ⟨ha.1, mem_visited_opened.mpr (.inr ha.2)⟩
  exact
    { visited_iff := by
        intro b
        have hstore : visited (L₁.store e n) = visited L₁ := rfl
        rw [hstore, h.visited_iff, mem_visited_opened, List.mem_cons]
        tauto
      length_arena := by
        have hlength := h.length_arena
        simp only [arena_opened, List.length_append, List.length_singleton] at hlength
        simp only [Ledger.arena_store, List.length_set, List.length_cons]
        omega
      once := by
        intro b hcustom hb
        by_cases hbc : b = c
        · subst hbc
          have hnot : b ∉ log := fun hmem =>
            (h.once hcustom hmem).1 (mem_visited_opened.mpr (.inl rfl))
          exact ⟨fun hmem => hunknown ⟨hcustom, hmem⟩, by simp [List.count_eq_zero.mpr hnot]⟩
        · obtain ⟨hunseen, hcount⟩ := h.once hcustom ((List.mem_cons.mp hb).resolve_left hbc)
          refine ⟨fun hmem => hunseen (mem_visited_opened.mpr (.inr hmem)), ?_⟩
          rwa [List.count_cons_of_ne (Ne.symm hbc)]
      leads := by
        rintro b rfl
        exact .inl List.mem_cons_self
      edges := by
        rintro a b ha ⟨fields', hfields', f, hf, hleads⟩
        rcases List.mem_cons.mp ha with rfl | ha
        · obtain rfl := Except.ok.inj (hfields.symm.trans hfields')
          exact hknown (h.leads ⟨f, hf, hleads⟩)
        · exact hknown (h.edges ha ⟨fields', hfields', f, hf, hleads⟩)
      reached := by
        intro b hb
        rcases List.mem_cons.mp hb with rfl | hb
        · exact ⟨b, rfl, .refl⟩
        · obtain ⟨r, ⟨f, hf, hleads⟩, hpath⟩ := (h.reached hb).mono hmore
          exact ⟨c, rfl, hpath.head ⟨⟨fields, hfields, f, hf, hleads⟩, hunknown⟩⟩ }

end Fresh

/-- The log of data members is that of the first, and then that of the others. -/
theorem Records.cons {f : SchemaField} {fields : List SchemaField} {log log' : List ClassRef}
    (h : Records cat L (.type f.type f.description) L₁ log)
    (h' : Records cat L₁ (.members fields) L' log') :
    Records cat L (.members (f :: fields)) L' (log ++ log') := by
  have hknown : ∀ {b}, b ∈ log' ∨ Known cat L₁ b → b ∈ log ++ log' ∨ Known cat L b := by
    rintro b (hb | ⟨hcustom, hb⟩)
    · exact .inl (List.mem_append_right _ hb)
    · rcases h.visited_iff.mp hb with hb | hb
      · exact .inr ⟨hcustom, hb⟩
      · exact .inl (List.mem_append_left _ hb)
  have hleft : ∀ {b}, b ∈ log ∨ Known cat L b → b ∈ log ++ log' ∨ Known cat L b :=
    fun hb => hb.imp_left (List.mem_append_left _)
  have hmore : ∀ a, Known cat L a → Known cat L₁ a :=
    fun a ha => ⟨ha.1, h.visited_iff.mpr (.inl ha.2)⟩
  exact
    { visited_iff := by
        intro b
        rw [h'.visited_iff, h.visited_iff, List.mem_append, or_assoc]
      length_arena := by
        rw [h'.length_arena, h.length_arena, List.length_append, Nat.add_assoc]
      once := by
        intro b hcustom hb
        rw [List.count_append]
        by_cases hlog : b ∈ log
        · -- What the first member registers is known to the others.
          have hnot : b ∉ log' := fun hmem =>
            (h'.once hcustom hmem).1 (h.visited_iff.mpr (.inr hlog))
          obtain ⟨hunseen, hcount⟩ := h.once hcustom hlog
          exact ⟨hunseen, by rw [hcount, List.count_eq_zero.mpr hnot]⟩
        · obtain ⟨hunseen, hcount⟩ := h'.once hcustom ((List.mem_append.mp hb).resolve_left hlog)
          refine ⟨fun hmem => hunseen (h.visited_iff.mpr (.inl hmem)), ?_⟩
          rw [hcount, List.count_eq_zero.mpr hlog]
      leads := by
        rintro b ⟨g, hg, hleads⟩
        rcases List.mem_cons.mp hg with rfl | hg
        · exact hleft (h.leads hleads)
        · exact hknown (h'.leads ⟨g, hg, hleads⟩)
      edges := by
        intro a b ha hedge
        rcases List.mem_append.mp ha with ha | ha
        · exact hleft (h.edges ha hedge)
        · exact hknown (h'.edges ha hedge)
      reached := by
        intro b hb
        rcases List.mem_append.mp hb with hb | hb
        · obtain ⟨r, hr, hpath⟩ := h.reached hb
          exact ⟨r, ⟨f, List.mem_cons_self, hr⟩, hpath⟩
        · obtain ⟨r, ⟨g, hg, hr⟩, hpath⟩ := (h'.reached hb).mono hmore
          exact ⟨r, ⟨g, List.mem_cons_of_mem _ hg, hr⟩, hpath⟩ }

/-- A derivation has a log, and the log accounts for what is added to the ledger. -/
theorem Builds.registers {result : Result} (h : Builds cat room L task result L') :
    ∃ log, Registers cat L task log ∧ Records cat L task L' log := by
  induction h with
  | scalar hform =>
      exact ⟨[], .scalar hform, .nil rfl rfl fun c hc => absurd hc (Leads.not_of_scalar hform)⟩
  | array hform _ ih =>
      obtain ⟨log, hlog, hrecords⟩ := ih
      exact ⟨log, .array hform hlog, hrecords.of_leads fun c => Leads.iff_of_array hform⟩
  | object hform _ ih =>
      obtain ⟨log, hlog, hrecords⟩ := ih
      exact ⟨log, .object hform hlog, hrecords.of_leads fun c => Leads.iff_of_object hform⟩
  | @placeholder _ L c _ e hcustom he _ =>
      have hvisited : visited (L.setRecursive c.toExpr true) = visited L := by
        rw [visited, Ledger.keys_setRecursive, visited]
      refine ⟨[], .known hcustom he, .nil hvisited (by simp) ?_⟩
      rintro b rfl
      exact ⟨hcustom, mem_visited_iff.mpr ⟨e, he⟩⟩
  | reuse hcustom he _ =>
      refine ⟨[], .known hcustom he, .nil rfl rfl ?_⟩
      rintro b rfl
      exact ⟨hcustom, mem_visited_iff.mpr ⟨_, he⟩⟩
  | fresh hnew hfields _ ih =>
      obtain ⟨log, hlog, hrecords⟩ := ih
      exact ⟨_, .fresh hnew hfields hlog, hrecords.fresh hnew hfields⟩
  | nil =>
      refine ⟨[], .nil, .nil rfl rfl ?_⟩
      rintro c ⟨f, hf, -⟩
      exact absurd hf List.not_mem_nil
  | cons hn _ ihn ihs =>
      obtain ⟨log, hlog, hrecords⟩ := ihn
      obtain ⟨log', hlog', hrecords'⟩ := ihs
      exact ⟨_, .cons hlog hn hlog', hrecords.cons hrecords'⟩

/-- A task has one log at most. -/
theorem Registers.unique {log log' : List ClassRef} (h : Registers cat L task log)
    (h' : Registers cat L task log') : log = log' := by
  induction h generalizing log' with
  | scalar hform =>
      cases h' with
      | scalar _ => rfl
      | array hform' _ => exact absurd (hform.symm.trans hform') (by simp)
      | object hform' _ => exact absurd (hform.symm.trans hform') (by simp)
  | array hform _ ih =>
      cases h' with
      | scalar hform' => exact absurd (hform.symm.trans hform') (by simp)
      | array hform' hitem =>
          obtain ⟨rfl, -⟩ := Form.array.inj (Except.ok.inj (hform.symm.trans hform'))
          exact ih hitem
      | object hform' _ => exact absurd (hform.symm.trans hform') (by simp)
  | object hform _ ih =>
      cases h' with
      | scalar hform' => exact absurd (hform.symm.trans hform') (by simp)
      | array hform' _ => exact absurd (hform.symm.trans hform') (by simp)
      | object hform' hobject =>
          obtain ⟨rfl, rfl⟩ := Form.object.inj (Except.ok.inj (hform.symm.trans hform'))
          exact ih hobject
  | known hcustom he =>
      cases h' with
      | known _ _ => rfl
      | fresh hnew _ _ => exact absurd ((hnew hcustom).symm.trans he) (by simp)
  | fresh hnew hfields _ ih =>
      cases h' with
      | known hcustom he => exact absurd ((hnew hcustom).symm.trans he) (by simp)
      | fresh _ hfields' hmembers =>
          obtain rfl := Except.ok.inj (hfields.symm.trans hfields')
          rw [ih hmembers]
  | nil =>
      cases h'
      rfl
  | cons _ hn _ ihn ihs =>
      cases h' with
      | cons hhead hn' htail =>
          obtain ⟨-, rfl⟩ := hn.unique_of_rooms hn'
          rw [ihn hhead, ihs htail]

end TypeSchema.Compile
