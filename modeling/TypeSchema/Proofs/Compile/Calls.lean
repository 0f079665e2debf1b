import Mathlib.Logic.Relation
import TypeSchema.Proofs.Compile.Soundness
/-!
# Calls

A derivation says what a compilation comes to. What is done on the way is told by the calls in it:
`Calls cat x y` says that the call `x` of the compiler makes the call `y`. From a call that succeeds
all calls on the way succeed too, and the finished objects they leave are there in the end
(`Builds.of_calls`).

`Makes cat x c d built` says that on the way the object of a class is made from a description and
its data members. The classes that a compilation registers are those whose objects it makes
(`Builds.made`, `Makes.mem_keys`). A class of the program is made once: in the end the ledger holds
the object that was made (`Makes.holds`).
-/

namespace TypeSchema.Compile

variable {cat : Catalog} {L L₁ L' : Ledger TypeExpr} {room : Nat} {task : Task} {result : Result}

/-! ## Finished objects in ledgers -/

/-- The ledger holds a finished node for the class. -/
def Holds (L : Ledger TypeExpr) (c : ClassRef) (n : Node) : Prop :=
  ∃ e, L.get? c.toExpr = some e ∧ L.node e = n ∧ isReference n = false

theorem Holds.unique {c : ClassRef} {n n' : Node} (h : Holds L c n) (h' : Holds L c n') :
    n = n' := by
  obtain ⟨e, he, rfl, -⟩ := h
  obtain ⟨e', he', rfl, -⟩ := h'
  rw [Option.some.inj (he.symm.trans he')]

theorem Holds.mem_keys {c : ClassRef} {n : Node} (h : Holds L c n) : c.toExpr ∈ L.keys := by
  obtain ⟨e, he, -⟩ := h
  exact Ledger.mem_keys_iff.mpr ⟨e, he⟩

/-- What a ledger knows another one knows too: the types, and the finished nodes of classes of the
program. -/
structure Retains (cat : Catalog) (L L' : Ledger TypeExpr) : Prop where
  keys : L.keys ⊆ L'.keys
  holds : ∀ {c n}, cat.isCustom c = true → Holds L c n → Holds L' c n

theorem Retains.refl (L : Ledger TypeExpr) : Retains cat L L where
  keys := fun _ h => h
  holds := fun _ h => h

theorem Retains.trans (h : Retains cat L L₁) (h' : Retains cat L₁ L') : Retains cat L L' where
  keys := fun _ hk => h'.keys (h.keys hk)
  holds := fun hcustom hn => h'.holds hcustom (h.holds hcustom hn)

theorem Extends.retains (h : Extends cat L L') (hL : L.WellFormed) : Retains cat L L' where
  keys := h.keys.subset
  holds := by
    rintro c n hcustom ⟨e, he, rfl, href⟩
    obtain ⟨flag, he', -, -⟩ := h.entry hcustom he
    exact ⟨_, he', h.node_eq hL he flag, href⟩

section Fresh

variable {c : ClassRef} {n : Node}

/-- While a class is being built no finished node is held for it. -/
theorem not_holds_opened (hL : Sound cat (opened cat c L)) (hext : Extends cat (opened cat c L) L₁)
    (hcustom : cat.isCustom c = true) : ¬Holds L₁ c n := by
  rintro ⟨e, he, rfl, href⟩
  obtain ⟨flag, he', -, -⟩ := hext.entry hcustom (get?_opened_self cat c L)
  obtain rfl := Option.some.inj (he.symm.trans he')
  rw [hext.node_eq hL.wellFormed (get?_opened_self cat c L) flag, node_opened_self] at href
  exact absurd href (by simp [isReference])

/-- The object of a class is stored where no finished node of another class is. -/
theorem retains_store (h : Sound cat L) (hnew : cat.isCustom c = true → L.get? c.toExpr = none)
    (hext : Extends cat (opened cat c L) L₁) : Retains cat L₁ (L₁.store (newEntry cat c L) n) where
  keys := fun _ hk => hk
  holds := by
    intro c' n' hcustom hn'
    by_cases hcc : c' = c
    · subst hcc
      exact absurd hn' (not_holds_opened (h.opened hnew) hext hcustom)
    · obtain ⟨e, he, rfl, href⟩ := hn'
      exact ⟨e, he, Ledger.node_store_of_ne
        (slot_ne_newEntry h.wellFormed hext hcc hcustom he) _ _, href⟩

theorem holds_store_self (hL₁ : Sound cat L₁) (hext : Extends cat (opened cat c L) L₁)
    (hcustom : cat.isCustom c = true) (hn : isReference n = false) :
    Holds (L₁.store (newEntry cat c L) n) c n := by
  obtain ⟨flag, he, -, -⟩ := hext.entry hcustom (get?_opened_self cat c L)
  exact ⟨_, he, node_stored hL₁ hext hcustom he n, hn⟩

end Fresh

/-! ## Calls -/

/-- A call of the compiler. -/
structure Call where
  room : Nat
  ledger : Ledger TypeExpr
  task : Task

/-- The calls that a call makes, with the ledgers they find. -/
inductive Calls (cat : Catalog) : Call → Call → Prop
  | array {room L t given item d} : cat.form t given = .ok (.array item d) →
      Calls cat ⟨room + 1, L, .type t given⟩ ⟨room, L, .type item none⟩
  | object {room L t given c d} : cat.form t given = .ok (.object c d) →
      Calls cat ⟨room + 1, L, .type t given⟩ ⟨room, L, .object c d⟩
  | fresh {room L c d fields} : (cat.isCustom c = true → L.get? c.toExpr = none) →
      cat.fieldsOf c = .ok fields →
      Calls cat ⟨room, L, .object c d⟩ ⟨room, opened cat c L, .members fields⟩
  | head {room L f fields} :
      Calls cat ⟨room, L, .members (f :: fields)⟩ ⟨room, L, .type f.type f.description⟩
  /-- The members after the first find the ledger that the first leaves. -/
  | tail {room L L₁ f fields n} :
      Builds cat room L (.type f.type f.description) (.node n) L₁ →
      Calls cat ⟨room, L, .members (f :: fields)⟩ ⟨room, L₁, .members fields⟩

/-- The call is made on the way from another. -/
abbrev Reached (cat : Catalog) : Call → Call → Prop := Relation.ReflTransGen (Calls cat)

theorem Calls.builds {x y : Call} (h : Calls cat x y)
    (hx : Builds cat x.room x.ledger x.task result L') (hL : Sound cat x.ledger) :
    Sound cat y.ledger ∧
      ∃ r L₁, Builds cat y.room y.ledger y.task r L₁ ∧ Retains cat L₁ L' := by
  cases h with
  | array hform =>
      obtain ⟨n, -, hitem⟩ := hx.of_array hform
      exact ⟨hL, _, _, hitem, .refl _⟩
  | object hform => exact ⟨hL, _, _, hx.of_object hform, .refl _⟩
  | fresh hnew hfields =>
      obtain ⟨_, built, L₁, hfields', hbuilt, -, rfl⟩ := hx.of_fresh hnew
      obtain rfl := Except.ok.inj (hfields.symm.trans hfields')
      have hopened := hL.opened hnew
      obtain ⟨-, hext, -⟩ := hbuilt.sound hopened
      -- After its members the class is stored, in the slot that it was given before them.
      exact ⟨hopened, _, _, hbuilt, retains_store hL hnew hext⟩
  | head =>
      cases hx with
      | cons hn hbuilt =>
          -- The ledger that the first member leaves grows while the others are built.
          obtain ⟨hL₁, -, -⟩ := hn.sound hL
          obtain ⟨-, hext, -⟩ := hbuilt.sound hL₁
          exact ⟨hL, _, _, hn, hext.retains hL₁.wellFormed⟩
  | tail hn =>
      cases hx with
      | cons hn' hbuilt =>
          obtain ⟨-, rfl⟩ := hn.unique hn'
          obtain ⟨hL₁, -, -⟩ := hn.sound hL
          exact ⟨hL₁, _, _, hbuilt, .refl _⟩

/-- All calls on the way succeed. What they know in the end is known until the end. -/
theorem Builds.of_calls {x y : Call} (h : Reached cat x y)
    (hx : Builds cat x.room x.ledger x.task result L') (hL : Sound cat x.ledger) :
    Sound cat y.ledger ∧
      ∃ r L₁, Builds cat y.room y.ledger y.task r L₁ ∧ Retains cat L₁ L' := by
  induction h with
  | refl => exact ⟨hL, _, _, hx, .refl _⟩
  | tail _ hcall ih =>
      obtain ⟨hb, r, L₁, hbuilds, hretains⟩ := ih
      obtain ⟨hc, r', L₂, hbuilds', hretains'⟩ := hcall.builds hbuilds hb
      exact ⟨hc, r', L₂, hbuilds', hretains'.trans hretains⟩

/-! ## Objects that are made -/

/-- On the way from a call the object of a class is made, with a description and members. -/
inductive Makes (cat : Catalog) (x : Call) (c : ClassRef) (d : Option Json)
    (built : List (String × Node)) : Prop
  | intro {room L fields L'} : Reached cat x ⟨room, L, .object c d⟩ →
      (cat.isCustom c = true → L.get? c.toExpr = none) → cat.fieldsOf c = .ok fields →
      Builds cat room (opened cat c L) (.members fields) (.members built) L' →
      Makes cat x c d built

variable {x y : Call} {c : ClassRef} {d : Option Json} {built : List (String × Node)}

theorem Makes.of_calls (hcall : Reached cat x y) (h : Makes cat y c d built) :
    Makes cat x c d built := by
  obtain ⟨hpath, hnew, hfields, hbuilt⟩ := h
  exact .intro (hcall.trans hpath) hnew hfields hbuilt

/-- An object that is made is what its call comes to. -/
theorem Makes.builds (h : Makes cat x c d built)
    (hx : Builds cat x.room x.ledger x.task result L') (hL : Sound cat x.ledger) :
    ∃ room fields L₀ L₁, Sound cat L₀ ∧ (cat.isCustom c = true → L₀.get? c.toExpr = none) ∧
      cat.fieldsOf c = .ok fields ∧
      Reached cat x ⟨room, opened cat c L₀, .members fields⟩ ∧
      Builds cat room (opened cat c L₀) (.members fields) (.members built) L₁ ∧
      Retains cat (L₁.store (newEntry cat c L₀) (objectNode cat c d built)) L' := by
  obtain ⟨hpath, hnew, hfields, hbuilt⟩ := h
  obtain ⟨hL₀, r, L₂, hobject, hretains⟩ := hx.of_calls hpath hL
  obtain ⟨-, rfl⟩ := hobject.unique (.fresh hnew hfields hbuilt)
  exact ⟨_, _, _, _, hL₀, hnew, hfields, hpath.tail (.fresh hnew hfields), hbuilt, hretains⟩

theorem mem_keys_opened {c' : ClassRef} :
    c'.toExpr ∈ (opened cat c L).keys ↔ c' = c ∨ c'.toExpr ∈ L.keys := by
  rw [Ledger.mem_keys_iff, Ledger.mem_keys_iff]
  by_cases hcc : c' = c
  · subst hcc
    simp [get?_opened_self]
  · rw [get?_opened_of_ne fun heq => hcc (ClassRef.toExpr_inj heq)]
    simp [hcc]

/-- The class of an object that is made is in the ledger in the end. -/
theorem Makes.mem_keys (h : Makes cat x c d built)
    (hx : Builds cat x.room x.ledger x.task result L') (hL : Sound cat x.ledger) :
    c.toExpr ∈ L'.keys := by
  obtain ⟨room, fields, L₀, L₁, hL₀, hnew, -, -, hbuilt, hretains⟩ := h.builds hx hL
  obtain ⟨-, hext, -⟩ := hbuilt.sound (hL₀.opened hnew)
  exact hretains.keys (hext.keys.subset (mem_keys_opened.mpr (.inl rfl)))

/-- For a class of the program the ledger holds the object that was made. -/
theorem Makes.holds (h : Makes cat x c d built)
    (hx : Builds cat x.room x.ledger x.task result L') (hL : Sound cat x.ledger)
    (hcustom : cat.isCustom c = true) : Holds L' c (objectNode cat c d built) := by
  obtain ⟨room, fields, L₀, L₁, hL₀, hnew, -, -, hbuilt, hretains⟩ := h.builds hx hL
  obtain ⟨hL₁, hext, -⟩ := hbuilt.sound (hL₀.opened hnew)
  exact hretains.holds hcustom (holds_store_self hL₁ hext hcustom rfl)

/-- A class is in the ledger because it was there or because its object was made. -/
theorem Builds.made (h : Builds cat room L task result L') (hc : c.toExpr ∈ L'.keys) :
    c.toExpr ∈ L.keys ∨ ∃ d built, Makes cat ⟨room, L, task⟩ c d built := by
  have hstep : ∀ {x y}, Calls cat x y → (∃ d built, Makes cat y c d built) →
      ∃ d built, Makes cat x c d built :=
    fun hcall ⟨d, built, hmade⟩ => ⟨d, built, hmade.of_calls (.single hcall)⟩
  induction h with
  | scalar _ => exact .inl hc
  | array hform _ ih => exact (ih hc).imp_right (hstep (.array hform))
  | object hform _ ih => exact (ih hc).imp_right (hstep (.object hform))
  | placeholder _ _ _ => exact .inl (by simpa using hc)
  | reuse _ _ _ => exact .inl hc
  | fresh hnew hfields hbuilt ih =>
      rcases ih hc with hc | hmade
      · rcases mem_keys_opened.mp hc with rfl | hc
        · exact .inr ⟨_, _, .intro .refl hnew hfields hbuilt⟩
        · exact .inl hc
      · exact .inr (hstep (.fresh hnew hfields) hmade)
  | nil => exact .inl hc
  | cons hn _ ihn ihs =>
      rcases ihs hc with hc | hmade
      · exact (ihn hc).imp_right (hstep .head)
      · exact .inr (hstep (.tail hn) hmade)

/-- In the end the ledger holds, for a class of the program, the object that was made. -/
theorem Builds.holds_iff {n : Node} (h : Builds cat room .empty task result L)
    (hcustom : cat.isCustom c = true) : Holds L c n ↔
      ∃ d built, Makes cat ⟨room, .empty, task⟩ c d built ∧ n = objectNode cat c d built := by
  constructor
  · intro hn
    rcases h.made hn.mem_keys with hc | ⟨d, built, hmade⟩
    · exact absurd (Ledger.mem_keys_iff.mp hc) (by simp)
    · exact ⟨d, built, hmade, hn.unique (hmade.holds h .empty hcustom)⟩
  · rintro ⟨d, built, hmade, rfl⟩
    exact hmade.holds h .empty hcustom

/-! ## The members of an object -/

/-- Each member whose name does not come again is built by a call on the way, and the object has
its node. -/
theorem Builds.member {fields : List SchemaField} {f : SchemaField}
    (h : Builds cat room L (.members fields) (.members built) L') (hf : f ∈ fields)
    (honce : (fields.map (·.name)).count f.name = 1) :
    ∃ L₁ L₂ n, Reached cat ⟨room, L, .members fields⟩ ⟨room, L₁, .type f.type f.description⟩ ∧
      Builds cat room L₁ (.type f.type f.description) (.node n) L₂ ∧
      (f.name, n) ∈ OrderedMap.ofList built := by
  induction fields generalizing built L with
  | nil => exact absurd hf List.not_mem_nil
  | cons g fields ih =>
      cases h with
      | @cons _ _ L₁ _ _ _ n built hn hbuilt =>
          rw [List.map_cons, List.count_cons] at honce
          -- The name comes once, so it is that of the first member or of one of the others.
          by_cases hrest : f ∈ fields
          · have hname : f.name ∈ fields.map (·.name) := List.mem_map_of_mem hrest
            have hpos := List.count_pos_iff.mpr hname
            obtain ⟨L₂, L₃, m, hpath, hm, hmem⟩ := ih hbuilt hrest (by omega)
            exact ⟨L₂, L₃, m, .head (.tail hn) hpath, hm,
              OrderedMap.mem_ofList_cons_iff.mpr (.inr hmem)⟩
          · obtain rfl := (List.mem_cons.mp hf).resolve_right hrest
            have hlast : f.name ∉ OrderedMap.keys built := by
              rw [hbuilt.keys_members, ← List.count_eq_zero]
              simpa using honce
            exact ⟨L, L₁, n, .single .head, hn,
              OrderedMap.mem_ofList_cons_iff.mpr (.inl ⟨rfl, hlast⟩)⟩

end TypeSchema.Compile
