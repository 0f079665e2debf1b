import TypeSchema.Proofs.ClassGraph
import TypeSchema.Proofs.Compile.Root
/-!
# Cycles

The compiler flags a class when it meets it under construction. This is exact: the flagged
classes lie on cycles that the root reaches, every such cycle has a flagged class, and the
flagged classes are recorded in the order in which the walk over the class graph meets them.

* What is flagged is pending, and the pending classes are those from which the compiler came
  (`Builds.flagged`): between two meetings of a class lies a cycle.
* A class that is done is *settled*: paths from it that avoid flagged classes end
  (`Builds.settled`). So no cycle avoids them.
* A derivation goes where the walk goes (`Builds.walk`).
-/

namespace TypeSchema

namespace Compile

variable {cat : Catalog} {L L₁ L' : Ledger TypeExpr} {room : Nat} {task : Task} {result : Result}

/-! ## Pending and done -/

/-- The class is under construction: its slot holds the placeholder. -/
def Pending (L : Ledger TypeExpr) (c : ClassRef) : Prop :=
  ∃ e, L.get? c.toExpr = some e ∧ isReference (L.node e) = true

/-- The class is finished: its slot holds its object. -/
def Done (L : Ledger TypeExpr) (c : ClassRef) : Prop :=
  ∃ e, L.get? c.toExpr = some e ∧ isReference (L.node e) = false

/-- No class becomes pending and stays so. -/
theorem Extends.pending (h : Extends cat L L') (hL : L.WellFormed) {c : ClassRef}
    (hcustom : cat.isCustom c = true) (hc : Pending L' c) : Pending L c := by
  obtain ⟨e, he, href⟩ := hc
  cases hold : L.get? c.toExpr with
  | none => exact absurd href (by simp [(h.finished hcustom hold he).2])
  | some e₀ =>
      obtain ⟨flag, he', -, -⟩ := h.entry hcustom hold
      obtain rfl := Option.some.inj (he.symm.trans he')
      exact ⟨e₀, hold, h.node_eq hL hold flag ▸ href⟩

theorem pending_opened {c c' : ClassRef} (hL : L.WellFormed) (h : Pending (opened cat c L) c') :
    c' = c ∨ Pending L c' := by
  obtain ⟨e, he, href⟩ := h
  by_cases hcc : c'.toExpr = c.toExpr
  · exact .inl (ClassRef.toExpr_inj hcc)
  · rw [get?_opened_of_ne hcc] at he
    exact .inr ⟨e, he, node_opened hL he ▸ href⟩

theorem done_opened {c c' : ClassRef} (hL : L.WellFormed) (h : Done (opened cat c L) c') :
    Done L c' := by
  obtain ⟨e, he, href⟩ := h
  by_cases hcc : c'.toExpr = c.toExpr
  · rw [hcc, get?_opened_self] at he
    obtain rfl := Option.some.inj he
    exact absurd href (by simp [node_opened_self, isReference])
  · rw [get?_opened_of_ne hcc] at he
    exact ⟨e, he, node_opened hL he ▸ href⟩

theorem done_setRecursive {t : TypeExpr} {c : ClassRef} (h : Done (L.setRecursive t true) c) :
    Done L c := by
  obtain ⟨e, he, href⟩ := h
  obtain ⟨e₀, he₀, rfl⟩ := Ledger.get?_setRecursive_eq_some he
  exact ⟨e₀, he₀, by simpa [Ledger.node] using href⟩

theorem done_store {c c' : ClassRef} {n : Node} (hL : L.WellFormed)
    (hext : Extends cat (opened cat c L) L₁) (hcustom : cat.isCustom c' = true)
    (h : Done (L₁.store (newEntry cat c L) n) c') : c' = c ∨ Done L₁ c' := by
  obtain ⟨e, he, href⟩ := h
  rw [Ledger.get?_store] at he
  by_cases hcc : c' = c
  · exact .inl hcc
  · rw [Ledger.node_store_of_ne (slot_ne_newEntry hL hext hcc hcustom he)] at href
    exact .inr ⟨e, he, href⟩

/-! ## What is flagged lies on a cycle -/

/-- The task leads to the class. -/
def Task.Leads (cat : Catalog) : Task → ClassRef → Prop
  | .type t _, c => TypeSchema.Leads cat t c
  | .object d _, c => c = d
  | .members fields, c => ∃ f ∈ fields, TypeSchema.Leads cat f.type c

/-- The task leads to the class, or to a class from which edges go there. -/
def Task.Reaches (cat : Catalog) (task : Task) (c : ClassRef) : Prop :=
  ∃ r, task.Leads cat r ∧ Relation.ReflTransGen (Edge cat) r c

/-- What a task reaches is reached from any task that leads to as much. -/
theorem Task.Reaches.of_leads {task' : Task} {c : ClassRef} (h : task.Reaches cat c)
    (hleads : ∀ r, task.Leads cat r → task'.Leads cat r) : task'.Reaches cat c := by
  obtain ⟨r, hr, hpath⟩ := h
  exact ⟨r, hleads r hr, hpath⟩

/-- Every class that is flagged on the way is reached, and is pending before or on a cycle. -/
theorem Builds.flagged (h : Builds cat room L task result L') (hL : Sound cat L) {c : ClassRef}
    (hc : Flagged L' c) :
    Flagged L c ∨ (task.Reaches cat c ∧ (Pending L c ∨ OnCycle cat c)) := by
  induction h with
  | scalar _ => exact .inl hc
  | array hform _ ih =>
      rcases ih hL hc with hc | ⟨hreach, hcase⟩
      · exact .inl hc
      · exact .inr ⟨hreach.of_leads fun r => (Leads.iff_of_array hform).mpr, hcase⟩
  | object hform _ ih =>
      rcases ih hL hc with hc | ⟨hreach, hcase⟩
      · exact .inl hc
      · exact .inr ⟨hreach.of_leads fun r => (Leads.iff_of_object hform).mpr, hcase⟩
  | placeholder _ he href =>
      rcases hc.of_setRecursive with rfl | hc
      · exact .inr ⟨⟨_, rfl, .refl⟩, .inl ⟨_, he, href⟩⟩
      · exact .inl hc
  | reuse _ _ _ => exact .inl hc
  | @fresh _ L _ c₀ _ fields _ hnew hfields _ ih =>
      rcases ih (hL.opened hnew) hc with hc | ⟨⟨r, ⟨f, hf, hleads⟩, hpath⟩, hcase⟩
      · exact .inl ((hL.flagged_opened hnew).mp hc)
      · have hedge : Edge cat c₀ r := ⟨fields, hfields, f, hf, hleads⟩
        have hreach : Task.Reaches cat (.object c₀ none) c := ⟨c₀, rfl, hpath.head hedge⟩
        rcases hcase with hpending | hcycle
        · rcases pending_opened hL.wellFormed hpending with rfl | hpending
          -- The class itself is met again below its own data members.
          · exact .inr ⟨hreach, .inr (.head' hedge hpath)⟩
          · exact .inr ⟨hreach, .inl hpending⟩
        · exact .inr ⟨hreach, .inr hcycle⟩
  | nil => exact .inl hc
  | cons hn hbuilt ihn ihs =>
      obtain ⟨hL₁, hext, -⟩ := hn.sound hL
      obtain ⟨hL', -, -⟩ := hbuilt.sound hL₁
      have hcustom := hL'.custom_of_flagged hc
      rcases ihs hL₁ hc with hc | ⟨hreach, hcase⟩
      · rcases ihn hL hc with hc | ⟨hreach, hcase⟩
        · exact .inl hc
        · exact .inr ⟨hreach.of_leads fun r hr => ⟨_, List.mem_cons_self, hr⟩, hcase⟩
      · -- What is pending between two members was pending before the first.
        exact .inr ⟨hreach.of_leads fun r ⟨f, hf, hr⟩ => ⟨f, List.mem_cons_of_mem _ hf, hr⟩,
          hcase.imp_left (hext.pending hL.wellFormed hcustom)⟩

/-! ## No cycle avoids what is flagged -/

/-- Paths from the class that do not enter `S` end. -/
def Settled (cat : Catalog) (S : ClassRef → Prop) (c : ClassRef) : Prop :=
  Acc (fun d c => Edge cat c d ∧ ¬S d) c

/-- What is done in the end is settled, and so is what the task leads to, unless it is in `S`. -/
theorem Builds.settled (h : Builds cat room L task result L') (hL : Sound cat L)
    {S : ClassRef → Prop} (hS : ∀ c, Flagged L' c → S c)
    (hdone : ∀ c, cat.isCustom c = true → Done L c → Settled cat S c) :
    (∀ c, cat.isCustom c = true → Done L' c → Settled cat S c) ∧
      ∀ c, task.Leads cat c → S c ∨ Settled cat S c := by
  induction h with
  | scalar hform => exact ⟨hdone, fun c hc => absurd hc (Leads.not_of_scalar hform)⟩
  | array hform _ ih =>
      obtain ⟨hdone', hleads⟩ := ih hL hS hdone
      exact ⟨hdone', fun c hc => hleads c ((Leads.iff_of_array hform).mp hc)⟩
  | object hform _ ih =>
      obtain ⟨hdone', hleads⟩ := ih hL hS hdone
      exact ⟨hdone', fun c hc => hleads c ((Leads.iff_of_object hform).mp hc)⟩
  | placeholder _ he _ =>
      refine ⟨fun c hcustom hc => hdone c hcustom (done_setRecursive hc), ?_⟩
      rintro c rfl
      exact .inl (hS c ⟨_, Ledger.get?_setRecursive_self he true, rfl⟩)
  | reuse hcustom he href =>
      refine ⟨hdone, ?_⟩
      rintro c rfl
      exact .inr (hdone c hcustom ⟨_, he, href⟩)
  | @fresh _ L _ c₀ _ fields _ hnew hfields hbuilds ih =>
      obtain ⟨-, hext, -⟩ := hbuilds.sound (hL.opened hnew)
      obtain ⟨hdone', hleads⟩ := ih (hL.opened hnew) hS
        fun c hcustom hc => hdone c hcustom (done_opened hL.wellFormed hc)
      -- Every edge from the class comes from a member that was built.
      have hsettled : Settled cat S c₀ := by
        refine Acc.intro _ ?_
        rintro d ⟨⟨fields', hfields', f, hf, hd⟩, hnot⟩
        obtain rfl := Except.ok.inj (hfields.symm.trans hfields')
        exact (hleads d ⟨f, hf, hd⟩).resolve_left hnot
      refine ⟨fun c hcustom hc => ?_, ?_⟩
      · rcases done_store hL.wellFormed hext hcustom hc with rfl | hc
        · exact hsettled
        · exact hdone' c hcustom hc
      · rintro c rfl
        exact .inr hsettled
  | nil => exact ⟨hdone, fun c ⟨f, hf, _⟩ => absurd hf List.not_mem_nil⟩
  | cons hn hbuilt ihn ihs =>
      obtain ⟨hL₁, -, -⟩ := hn.sound hL
      obtain ⟨-, hext, -⟩ := hbuilt.sound hL₁
      obtain ⟨hdone₁, hhead⟩ := ihn hL (fun c hc => hS c (hext.flagged hL₁ hc)) hdone
      obtain ⟨hdone', htail⟩ := ihs hL₁ hS hdone₁
      refine ⟨hdone', ?_⟩
      rintro c ⟨f, hf, hc⟩
      rcases List.mem_cons.mp hf with rfl | hf
      · exact hhead c hc
      · exact htail c ⟨f, hf, hc⟩

/-- In the end everything that the root reaches is settled. -/
theorem Builds.settled_of_reaches (h : Builds cat room .empty task result L) {c : ClassRef}
    (hc : task.Reaches cat c) : Settled cat (Flagged L) c := by
  have hempty : ∀ c : ClassRef, ¬Done .empty c := by
    rintro c ⟨e, he, -⟩
    exact absurd he (by simp)
  obtain ⟨hdone, hleads⟩ := h.settled .empty (fun _ hc => hc) fun c _ hc => absurd hc (hempty c)
  have hflagged : ∀ {c}, Flagged L c → Settled cat (Flagged L) c := by
    intro c hc
    have hcustom := h.complete.sound.custom_of_flagged hc
    obtain ⟨e, he, -⟩ := hc
    obtain ⟨d, fields, built, -, hn, -⟩ := h.complete.finished hcustom he
    exact hdone c hcustom ⟨e, he, by simp [hn]⟩
  obtain ⟨r, hr, hpath⟩ := hc
  induction hpath with
  | refl => exact (hleads r hr).elim hflagged id
  | @tail b d _ hedge ih =>
      by_cases hd : Flagged L d
      · exact hflagged hd
      · exact Acc.inv ih ⟨hedge, hd⟩

theorem Settled.not_transGen_self {S : ClassRef → Prop} {c : ClassRef} (h : Settled cat S c) :
    ¬Relation.TransGen (fun d c => Edge cat c d ∧ ¬S d) c c := by
  have hacc := Acc.transGen h
  clear h
  induction hacc with
  | intro c _ ih => exact fun hself => ih c hself hself

/-- A path that does not enter `S` leads back step by step. -/
theorem transGen_of_isChain {S : ClassRef → Prop} {b c : ClassRef} {ds : List ClassRef}
    (hc : ¬S c) (hds : ∀ d ∈ ds, ¬S d) (hpath : List.IsChain (Edge cat) (b :: (ds ++ [c]))) :
    Relation.TransGen (fun d c => Edge cat c d ∧ ¬S d) c b := by
  induction ds generalizing b with
  | nil => exact .single ⟨hpath.rel, hc⟩
  | cons d ds ih =>
      have hrest := ih (fun x hx => hds x (List.mem_cons_of_mem _ hx)) hpath.tail
      exact hrest.tail ⟨hpath.rel, hds d List.mem_cons_self⟩

/-- A cycle through a settled class enters `S`. -/
theorem Settled.exists_mem_of_cycle {S : ClassRef → Prop} {c : ClassRef} {cs : List ClassRef}
    (h : Settled cat S c) (hcycle : List.IsChain (Edge cat) (c :: (cs ++ [c]))) :
    ∃ d ∈ c :: cs, S d := by
  by_contra hnone
  have havoid : ∀ d ∈ c :: cs, ¬S d := fun d hd hS => hnone ⟨d, hd, hS⟩
  refine h.not_transGen_self (transGen_of_isChain (havoid c List.mem_cons_self) ?_ hcycle)
  exact fun d hd => havoid d (List.mem_cons_of_mem _ hd)

/-- Without flagged classes there are no definitions. -/
theorem Sound.not_flagged_iff (h : Sound cat L) :
    (∀ c, ¬Flagged L c) ↔ L.definitions = [] := by
  constructor
  · intro hnone
    refine definitions_eq_nil_iff.mpr (List.eq_nil_iff_forall_not_mem.mpr fun e he => ?_)
    obtain ⟨c, -, hc⟩ := h.flagged_of_mem he
    exact hnone c hc
  · intro hnil c hc
    have hkey := h.mem_keys_definitions hc
    rw [hnil] at hkey
    exact List.not_mem_nil hkey

/-! ## The order of the classes -/

instance (c : ClassRef) : Decidable (Flagged L c) :=
  decidable_of_iff ((L.get? c.toExpr).any (·.recursive) = true) (by
    cases h : L.get? c.toExpr <;> simp [Flagged, h])

/-- The classes that the ledger knows, in the order in which they were first registered. -/
def visited (L : Ledger TypeExpr) : List ClassRef := L.keys.filterMap TypeExpr.asClass?

theorem mem_visited_iff {c : ClassRef} : c ∈ visited L ↔ ∃ e, L.get? c.toExpr = some e := by
  rw [← Ledger.mem_keys_iff, visited, List.mem_filterMap]
  constructor
  · rintro ⟨t, ht, hc⟩
    rwa [← TypeExpr.eq_toExpr_of_asClass? hc]
  · exact fun h => ⟨_, h, TypeExpr.asClass?_toExpr c⟩

/-- Opening a class is meeting it. -/
theorem visited_opened (cat : Catalog) (c : ClassRef) (L : Ledger TypeExpr) :
    visited (opened cat c L) = meet c (visited L) := by
  have hmem : c.toExpr ∈ L.keys ↔ c ∈ visited L := by
    rw [mem_visited_iff, Ledger.mem_keys_iff]
  unfold visited opened meet at *
  rw [Ledger.keys_register]
  by_cases hc : c.toExpr ∈ L.keys
  · rw [if_pos hc, if_pos (hmem.mp hc)]
  · rw [if_neg hc, if_neg (hmem.not.mp hc), List.filterMap_append]
    rfl

/-- The walk that a task stands for. -/
def Task.Walks (cat : Catalog) (seen seen' : List ClassRef) : Task → Prop
  | .type t _ => Walk cat seen [t] seen'
  | .object c _ => ∀ t, TypeSchema.Leads cat t c → Walk cat seen [t] seen'
  | .members fields => Walk cat seen (fields.map (·.type)) seen'

/-- A derivation goes where the walk goes. -/
theorem Builds.walk (h : Builds cat room L task result L') :
    task.Walks cat (visited L) (visited L') := by
  induction h with
  | scalar hform => exact .leaf (fun c => Leads.not_of_scalar hform) .nil
  | array hform _ ih => exact ih.of_leads fun c => Leads.iff_of_array hform
  | object hform _ ih => exact ih _ ((Leads.iff_of_object hform).mpr rfl)
  | @placeholder _ L c _ e hcustom he _ =>
      intro t ht
      have hvisited : visited (L.setRecursive c.toExpr true) = visited L := by
        rw [visited, Ledger.keys_setRecursive]
        rfl
      rw [hvisited]
      exact .known ht hcustom (mem_visited_iff.mpr ⟨e, he⟩) .nil
  | reuse hcustom he _ =>
      exact fun t ht => .known ht hcustom (mem_visited_iff.mpr ⟨_, he⟩) .nil
  | @fresh _ L _ c _ _ _ hnew hfields _ ih =>
      intro t ht
      have hunseen : cat.isCustom c = true → c ∉ visited L := by
        intro hcustom hmem
        obtain ⟨e, he⟩ := mem_visited_iff.mp hmem
        exact absurd ((hnew hcustom).symm.trans he) (by simp)
      exact .enter ht hunseen hfields (visited_opened cat c L ▸ ih) .nil
  | nil => exact .nil
  | cons _ _ ihn ihs => exact ihn.cons ihs

/-- The recursive entries are those of the flagged classes, in the order of the visits. -/
theorem Sound.recursiveEntries_eq (h : Sound cat L) :
    ((visited L).filter (Flagged L ·)).map (fun c => L.get? c.toExpr) =
      L.recursiveEntries.map some := by
  have hentries : ∀ es ⊆ L.entries,
      (((OrderedMap.keys es).filterMap TypeExpr.asClass?).filter (Flagged L ·)).map
        (fun c => L.get? c.toExpr) = ((es.filter (·.2.recursive)).map Prod.snd).map some := by
    intro es
    induction es with
    | nil => exact fun _ => rfl
    | cons p es ih =>
        intro hsub
        obtain ⟨hp, hes⟩ := List.cons_subset.mp hsub
        have hget : L.get? p.1 = some p.2 := h.wellFormed.mem_entries_iff.mp hp
        obtain ⟨c, hc⟩ := h.class_of_key hget
        have hflag : Flagged L c ↔ p.2.recursive = true := by
          simp [Flagged, ← hc, hget]
        have hclass : p.1.asClass? = some c := hc ▸ TypeExpr.asClass?_toExpr c
        rw [OrderedMap.keys_cons, List.filterMap_cons_some hclass]
        cases hrecursive : p.2.recursive with
        | true =>
            have hin : Flagged L c := hflag.mpr hrecursive
            simp [hin, hrecursive, ih hes, ← hc, hget]
        | false =>
            have hout : ¬Flagged L c := by simp [hflag, hrecursive]
            simp [hout, hrecursive, ih hes]
  rw [Ledger.recursiveEntries_eq]
  exact hentries L.entries (List.Subset.refl _)

end Compile

namespace Catalog

open Compile

variable {cat : Catalog} {limit : Int} {t : TypeExpr} {n : Node}

/-- Cycle detection is exact, and the recursive entries are in the order of the walk. -/
theorem build_cycles (h : cat.build limit t = .ok n) :
    ((∀ c, ¬Flagged (cat.visits limit t) c) ↔ n.definitions = []) ∧
    (n.definitions = [] ↔ ∀ c, Reaches cat t c → ¬OnCycle cat c) ∧
    (∀ c, Flagged (cat.visits limit t) c → Reaches cat t c ∧ OnCycle cat c) ∧
    (∀ c cs, Reaches cat t c → List.IsChain (Edge cat) (c :: (cs ++ [c])) →
      ∃ d ∈ c :: cs, Flagged (cat.visits limit t) d) ∧
    ∃ order, (∀ seen, Walk cat [] [t] seen ↔ seen = order) ∧
      (order.filter (Flagged (cat.visits limit t) ·)).map
        (fun c => (cat.visits limit t).get? c.toExpr) =
          (cat.visits limit t).recursiveEntries.map some := by
  obtain ⟨-, m, hm, rfl⟩ := build_builds h
  have hsound := hm.complete.sound
  have hflagged : ∀ c, Flagged (cat.visits limit t) c → Reaches cat t c ∧ OnCycle cat c := by
    intro c hc
    rcases hm.flagged .empty hc with ⟨e, he, -⟩ | ⟨hreach, ⟨e, he, -⟩ | hcycle⟩
    · exact absurd he (by simp)
    · exact absurd he (by simp)
    · exact ⟨hreach, hcycle⟩
  rw [hm.definitions_rooted]
  refine ⟨hsound.not_flagged_iff, ?_, hflagged, ?_, ?_⟩
  · rw [← hsound.not_flagged_iff]
    constructor
    · intro hnone c hc hcycle
      -- Where nothing is flagged, no path of edges goes round.
      refine (hm.settled_of_reaches hc).not_transGen_self ?_
      exact Relation.TransGen.mono (fun d b hedge => ⟨hedge, hnone d⟩) _ _
        (Relation.transGen_swap.mpr hcycle)
    · intro hnone c hc
      obtain ⟨hreach, hcycle⟩ := hflagged c hc
      exact hnone c hreach hcycle
  · intro c cs hc hcycle
    exact (hm.settled_of_reaches hc).exists_mem_of_cycle hcycle
  · refine ⟨visited (cat.visits limit t), fun seen => ?_, hsound.recursiveEntries_eq⟩
    constructor
    · exact fun hseen => hseen.unique hm.walk
    · rintro rfl
      exact hm.walk

theorem build_cycles_households :
    ∃ n, households.build 8 (ClassRef.declared 0).toExpr = .ok n ∧ n.definitions ≠ [] ∧
      OnCycle households (.declared 0) ∧ OnCycle households (.declared 1) := by
  obtain ⟨n, hn, hlength⟩ := exists_build_households
  obtain ⟨-, -, hflagged, -, -⟩ := build_cycles hn
  refine ⟨n, hn, ?_, (hflagged _ (by decide +kernel)).2, (hflagged _ (by decide +kernel)).2⟩
  intro hnil
  exact absurd hlength (by simp [hnil])

end Catalog

end TypeSchema
