import TypeSchema.Proofs.Compile.Moments
import TypeSchema.Proofs.Compile.Registrations
/-!
# The discipline of ledgers

At whatever moment of a compilation the compiler is called, what a call that returns does to the
ledger is the same (`Disciplined`). It opens no class and closes none that was open before, it
overwrites no slot that was in use, it flags only classes that it found open or registered itself,
and it registers what it reaches past the classes of the program that the ledger knew, each class
of the program once (`build_discipline`).
-/

namespace TypeSchema

namespace Compile

variable {cat : Catalog} {L L' : Ledger TypeExpr} {room : Nat} {task : Task} {result : Result}

/-- The slot of the class holds an object with the data members of the class as properties, under
their names in the order in which these first occur. -/
def HoldsMembers (cat : Catalog) (L : Ledger TypeExpr) (c : ClassRef) : Prop :=
  ∃ e fields ps d, L.get? c.toExpr = some e ∧ cat.fieldsOf c = .ok fields ∧
    L.node e = .object ps (some (OrderedMap.keys ps)) d none ∧
    OrderedMap.keys ps = (fields.map (·.name)).eraseDups

/-- What a task that finds the ledger `L` and leaves `L'` keeps, and what it adds. -/
structure Disciplined (cat : Catalog) (L : Ledger TypeExpr) (task : Task)
    (L' : Ledger TypeExpr) : Prop where
  /-- The classes of the program whose slots hold placeholders are the same. -/
  pending_iff : ∀ c, cat.isCustom c = true → (Pending L' c ↔ Pending L c)
  /-- Every slot holds what it held. -/
  arena : L.arena <+: L'.arena
  /-- Flags are kept. -/
  flagged : ∀ c, Flagged L c → Flagged L' c
  /-- A class that was there is flagged only while it is open. -/
  pending_of_flagged : ∀ c ∈ visited L, Flagged L' c → ¬Flagged L c →
    cat.isCustom c = true ∧ Pending L c
  /-- The entry of a class of the program stays, up to its flag. -/
  entry : ∀ c e, cat.isCustom c = true → L.get? c.toExpr = some e →
    ∃ flag, L'.get? c.toExpr = some { e with recursive := flag }
  /-- The classes that were there are still there. -/
  visited_subset : visited L ⊆ visited L'
  /-- A class is new when it is reached past the classes of the program that were there. -/
  new_iff : ∀ c, c ∉ visited L → (c ∈ visited L' ↔ task.ReachesPast cat (Known cat L) c)
  /-- The new slots are those of the registrations, which are determined; a class of the program is
  new when it is registered, and it is registered once. -/
  registers : ∃ log, (∀ log', Registers cat L task log' ↔ log' = log) ∧
    L'.arena.length = L.arena.length + log.length ∧
    ∀ c, cat.isCustom c = true →
      ((c ∈ log ↔ c ∈ visited L' ∧ c ∉ visited L) ∧ (c ∈ log → log.count c = 1))
  holdsMembers : ∀ c, cat.isCustom c = true → c ∈ visited L' → c ∉ visited L →
    HoldsMembers cat L' c

theorem get?_eq_none_of_not_mem {c : ClassRef} (h : c ∉ visited L) : L.get? c.toExpr = none := by
  rw [Option.eq_none_iff_forall_ne_some]
  exact fun e he => h (mem_visited_iff.mpr ⟨e, he⟩)

/-- An open class stays open until the call that opened it returns. -/
theorem Extends.pending_iff (h : Extends cat L L') (hL : L.WellFormed) {c : ClassRef}
    (hcustom : cat.isCustom c = true) : Pending L' c ↔ Pending L c := by
  refine ⟨h.pending hL hcustom, ?_⟩
  rintro ⟨e, he, href⟩
  obtain ⟨flag, he', -, -⟩ := h.entry hcustom he
  exact ⟨_, he', (h.node_eq hL he flag).symm ▸ href⟩

theorem Extends.pending_of_flagged (h : Extends cat L L') (hL' : Sound cat L') {c : ClassRef}
    (hc : c ∈ visited L) (hflag : Flagged L' c) (hnot : ¬Flagged L c) :
    cat.isCustom c = true ∧ Pending L c := by
  have hcustom := hL'.custom_of_flagged hflag
  obtain ⟨e, he⟩ := mem_visited_iff.mp hc
  obtain ⟨e', he', hrecursive⟩ := hflag
  obtain ⟨flag, he'', -, hcase⟩ := h.entry hcustom he
  obtain rfl := Option.some.inj (he'.symm.trans he'')
  rcases hcase hrecursive with hbefore | href
  · exact absurd ⟨e, he, hbefore⟩ hnot
  · exact ⟨hcustom, e, he, href⟩

/-- A class of the program that is new is finished. -/
theorem Extends.holdsMembers (h : Extends cat L L') (hL' : Sound cat L') {c : ClassRef}
    (hcustom : cat.isCustom c = true) (hc : c ∈ visited L') (hnew : c ∉ visited L) :
    HoldsMembers cat L' c := by
  obtain ⟨e, he⟩ := mem_visited_iff.mp hc
  obtain ⟨-, href⟩ := h.finished hcustom (get?_eq_none_of_not_mem hnew) he
  obtain ⟨d, fields, built, hfields, hn, hbuilt⟩ := hL'.finished_of_not_reference hcustom he href
  exact ⟨e, fields, _, _, he, hfields, hn, by rw [OrderedMap.keys_ofList, hbuilt.keys_members]⟩

/-- A class that is new was reached past the known ones, and the other way round. -/
theorem Records.new_iff {log : List ClassRef} (h : Records cat L task L' log) {c : ClassRef}
    (hc : c ∉ visited L) : c ∈ visited L' ↔ task.ReachesPast cat (Known cat L) c := by
  rw [h.visited_iff]
  constructor
  · exact fun hmem => h.reached (hmem.resolve_left hc)
  · exact fun hreach => .inr ((h.mem_or_known hreach).resolve_right fun hknown => hc hknown.2)

theorem Builds.disciplined (h : Builds cat room L task result L') (hL : Sound cat L) :
    Disciplined cat L task L' := by
  obtain ⟨hL', hext, -⟩ := h.sound hL
  obtain ⟨log, hlog, hrecords⟩ := h.registers
  refine
    { pending_iff := fun c hcustom => hext.pending_iff hL.wellFormed hcustom
      arena := hext.arena
      flagged := fun c hc => hext.flagged hL hc
      pending_of_flagged := fun c hc hflag hnot => hext.pending_of_flagged hL' hc hflag hnot
      entry := fun c e hcustom he => ?_
      visited_subset := fun c hc => hrecords.visited_iff.mpr (.inl hc)
      new_iff := fun c hc => hrecords.new_iff hc
      registers := ⟨log, fun log' => ?_, hrecords.length_arena, fun c hcustom => ⟨?_, ?_⟩⟩
      holdsMembers := fun c hcustom hc hnew => hext.holdsMembers hL' hcustom hc hnew }
  · obtain ⟨flag, he', -, -⟩ := hext.entry hcustom he
    exact ⟨flag, he'⟩
  · exact ⟨fun hlog' => hlog'.unique hlog, fun heq => heq ▸ hlog⟩
  · constructor
    · exact fun hc => ⟨hrecords.visited_iff.mpr (.inr hc), (hrecords.once hcustom hc).1⟩
    · exact fun hc => (hrecords.visited_iff.mp hc.1).resolve_left hc.2
  · exact fun hc => (hrecords.once hcustom hc).2

end Compile

namespace Catalog

open Compile

variable {cat : Catalog} {limit : Int} {t : TypeExpr}

/-- Every call that returns keeps the discipline, at every moment of a compilation, the last one
included. After a compilation that succeeds no class of the program is left open. -/
theorem build_discipline (cat : Catalog) (limit : Int) (t : TypeExpr) :
    (∀ L, cat.Occurs limit t L → ∀ task n L', Returns cat L task n L' →
      Disciplined cat L task L') ∧
    (1 ≤ limit → cat.Occurs limit t (cat.visits limit t)) ∧
    (∀ n, cat.build limit t = .ok n →
      ∀ c, cat.isCustom c = true → ¬Pending (cat.visits limit t) c) := by
  refine ⟨?_, fun hlimit => occurs_visits hlimit t, ?_⟩
  · intro L hL task n L' hreturns
    obtain ⟨room, m, hm⟩ := hreturns.builds
    exact hm.disciplined hL.sound
  · intro n hn c hcustom hc
    obtain ⟨-, m, hm, -⟩ := build_builds hn
    -- Nothing is open in the empty ledger.
    obtain ⟨e, he, -⟩ := ((hm.disciplined .empty).pending_iff c hcustom).mp hc
    exact absurd he (by simp)

/-- The ledger in which the compilation of a household has just begun. -/
def inHousehold : Ledger TypeExpr := opened households (.declared 0) .empty

theorem occurs_inHousehold :
    households.Occurs 8 (ClassRef.declared 0).toExpr inHousehold := by
  have hform : households.form (ClassRef.declared 0).toExpr none =
      .ok (.object (.declared 0) none) := rfl
  exact ⟨by decide, .register (.single (.object hform)) fun _ => rfl⟩

theorem returns_inHousehold : ∃ n L', Returns households inHousehold
    (.type (ClassRef.declared 1).toExpr none) n L' ∧
      Flagged L' (.declared 0) ∧ ClassRef.declared 1 ∈ visited L' := by
  have hok : (outcome (elementAt households 8 1 (ClassRef.declared 1).toExpr none .root)
      inHousehold).1.isOk = true := by decide +kernel
  have hleft : Flagged (outcome (elementAt households 8 1 (ClassRef.declared 1).toExpr none .root)
        inHousehold).2 (.declared 0) ∧
      ClassRef.declared 1 ∈ visited (outcome (elementAt households 8 1
        (ClassRef.declared 1).toExpr none .root) inHousehold).2 := by decide +kernel
  rcases h : outcome (elementAt households 8 1 (ClassRef.declared 1).toExpr none .root)
    inHousehold with ⟨e | n, L'⟩
  · rw [h] at hok
    exact absurd hok (by simp [Except.isOk, Except.toBool])
  · rw [h] at hleft
    exact ⟨n, L', .element h, hleft⟩

/-- Below a household that is under construction a person is built, and the household is met. -/
theorem build_discipline_households :
    ∃ L', Flagged L' (.declared 0) ∧ Pending L' (.declared 0) ∧
      HoldsMembers households L' (.declared 1) ∧
      ∀ c, households.isCustom c = true →
        ¬Pending (households.visits 8 (ClassRef.declared 0).toExpr) c := by
  obtain ⟨n, L', hreturns, hflag, hmem⟩ := returns_inHousehold
  obtain ⟨hdisciplined, -, hend⟩ := build_discipline households 8 (ClassRef.declared 0).toExpr
  obtain ⟨m, hm, -⟩ := exists_build_households
  have h := hdisciplined _ occurs_inHousehold _ _ _ hreturns
  refine ⟨L', hflag, (h.pending_iff _ rfl).mpr ⟨_, rfl, rfl⟩, ?_, hend m hm⟩
  exact h.holdsMembers _ rfl hmem (by decide)

end Catalog

end TypeSchema
