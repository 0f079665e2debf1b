import Mathlib.Data.List.Chain
import Mathlib.Logic.Relation
import TypeSchema.Proofs.Compile.Form
/-!
# The graph of classes

A type expression *leads* to the object class that is left of it when its wrappers and the layers
of lists and tuples are taken off. A class has an edge to each class that one of its data members
leads to.

The *walk* follows the edges depth first and in the order of declaration, and notes every class
when it first meets it. It goes into a class of the program once, and into a class of the
language each time.
-/

namespace TypeSchema

variable {cat : Catalog}

/-- The expression leads to the object class. -/
inductive Leads (cat : Catalog) : TypeExpr → ClassRef → Prop
  | here {t core found c} : t.unwrap = .ok (core, found) → core.rawClass? = some c →
      cat.kindOf c = .object → Leads cat t c
  | tuple {t core found b item c} : t.unwrap = .ok (core, found) → core.rawClass? = some b →
      cat.kindOf b = .fixedArray → core.elementOfTuple? = some item → Leads cat item c →
      Leads cat t c
  | collection {t core found b item c} : t.unwrap = .ok (core, found) →
      core.rawClass? = some b → cat.kindOf b = .collection →
      core.elementOfCollection? = some item → Leads cat item c → Leads cat t c

/-- Some data member of the first class leads to the second. -/
def Edge (cat : Catalog) (c d : ClassRef) : Prop :=
  ∃ fields, cat.fieldsOf c = .ok fields ∧ ∃ f ∈ fields, Leads cat f.type d

/-- The class is behind the type, or reached from there along edges. -/
def Reaches (cat : Catalog) (t : TypeExpr) (c : ClassRef) : Prop :=
  ∃ r, Leads cat t r ∧ Relation.ReflTransGen (Edge cat) r c

/-- Edges lead from the class back to itself. -/
def OnCycle (cat : Catalog) (c : ClassRef) : Prop := Relation.TransGen (Edge cat) c c

/-! ## What forms say about the graph -/

namespace Leads

variable {t core : TypeExpr} {found : Option String} {b c : ClassRef}

/-- The layer on top of an expression decides how the expression leads to classes. -/
theorem cases_of_unwrap (h : Leads cat t c) (hunwrap : t.unwrap = .ok (core, found))
    (hclass : core.rawClass? = some b) :
    (cat.kindOf b = .object ∧ c = b) ∨
      (cat.kindOf b = .fixedArray ∧ ∃ item, core.elementOfTuple? = some item ∧ Leads cat item c) ∨
      (cat.kindOf b = .collection ∧
        ∃ item, core.elementOfCollection? = some item ∧ Leads cat item c) := by
  cases h with
  | here hunwrap' hclass' hkind =>
      obtain ⟨rfl, -⟩ := Prod.mk.inj (Except.ok.inj (hunwrap'.symm.trans hunwrap))
      obtain rfl := Option.some.inj (hclass'.symm.trans hclass)
      exact .inl ⟨hkind, rfl⟩
  | tuple hunwrap' hclass' hkind hitem hleads =>
      obtain ⟨rfl, -⟩ := Prod.mk.inj (Except.ok.inj (hunwrap'.symm.trans hunwrap))
      obtain rfl := Option.some.inj (hclass'.symm.trans hclass)
      exact .inr (.inl ⟨hkind, _, hitem, hleads⟩)
  | collection hunwrap' hclass' hkind hitem hleads =>
      obtain ⟨rfl, -⟩ := Prod.mk.inj (Except.ok.inj (hunwrap'.symm.trans hunwrap))
      obtain rfl := Option.some.inj (hclass'.symm.trans hclass)
      exact .inr (.inr ⟨hkind, _, hitem, hleads⟩)

/-- An expression leads to one class at most. -/
theorem unique {c' : ClassRef} (h : Leads cat t c) (h' : Leads cat t c') : c = c' := by
  induction h with
  | here hunwrap hclass hkind =>
      rcases h'.cases_of_unwrap hunwrap hclass with ⟨-, heq⟩ | ⟨hkind', -⟩ | ⟨hkind', -⟩
      · exact heq.symm
      · exact absurd (hkind.symm.trans hkind') (by simp)
      · exact absurd (hkind.symm.trans hkind') (by simp)
  | tuple hunwrap hclass hkind hitem _ ih =>
      rcases h'.cases_of_unwrap hunwrap hclass with
        ⟨hkind', -⟩ | ⟨-, item, hitem', hleads⟩ | ⟨hkind', -⟩
      · exact absurd (hkind.symm.trans hkind') (by simp)
      · obtain rfl := Option.some.inj (hitem.symm.trans hitem')
        exact ih hleads
      · exact absurd (hkind.symm.trans hkind') (by simp)
  | collection hunwrap hclass hkind hitem _ ih =>
      rcases h'.cases_of_unwrap hunwrap hclass with
        ⟨hkind', -⟩ | ⟨hkind', -⟩ | ⟨-, item, hitem', hleads⟩
      · exact absurd (hkind.symm.trans hkind') (by simp)
      · exact absurd (hkind.symm.trans hkind') (by simp)
      · obtain rfl := Option.some.inj (hitem.symm.trans hitem')
        exact ih hleads

variable {given d : Option Json}

theorem not_of_scalar {n : Node} (hform : cat.form t given = .ok (.scalar n)) :
    ¬Leads cat t c := by
  intro h
  obtain ⟨core, found, b, hunwrap, hclass, hkind⟩ := Catalog.class_of_scalar hform
  rcases h.cases_of_unwrap hunwrap hclass with ⟨h, -⟩ | ⟨h, -⟩ | ⟨h, -⟩
  · exact hkind.2.2 h
  · exact hkind.1 h
  · exact hkind.2.1 h

theorem iff_of_array {item : TypeExpr} (hform : cat.form t given = .ok (.array item d)) :
    Leads cat t c ↔ Leads cat item c := by
  obtain ⟨core, found, b, hunwrap, hclass, hcase⟩ := Catalog.array_of_form hform
  constructor
  · intro h
    rcases hcase with ⟨hkind, hitem⟩ | ⟨hkind, hitem⟩ <;>
      rcases h.cases_of_unwrap hunwrap hclass with
        ⟨hkind', -⟩ | ⟨hkind', item', hitem', hleads⟩ | ⟨hkind', item', hitem', hleads⟩
    · exact absurd (hkind.symm.trans hkind') (by simp)
    · rwa [Option.some.inj (hitem.symm.trans hitem')]
    · exact absurd (hkind.symm.trans hkind') (by simp)
    · exact absurd (hkind.symm.trans hkind') (by simp)
    · exact absurd (hkind.symm.trans hkind') (by simp)
    · rwa [Option.some.inj (hitem.symm.trans hitem')]
  · intro h
    rcases hcase with ⟨hkind, hitem⟩ | ⟨hkind, hitem⟩
    · exact .tuple hunwrap hclass hkind hitem h
    · exact .collection hunwrap hclass hkind hitem h

theorem iff_of_object (hform : cat.form t given = .ok (.object b d)) :
    Leads cat t c ↔ c = b := by
  obtain ⟨core, found, hunwrap, hclass, hkind⟩ := Catalog.object_of_form hform
  constructor
  · intro h
    rcases h.cases_of_unwrap hunwrap hclass with ⟨-, heq⟩ | ⟨hkind', -⟩ | ⟨hkind', -⟩
    · exact heq
    · exact absurd (hkind.symm.trans hkind') (by simp)
    · exact absurd (hkind.symm.trans hkind') (by simp)
  · rintro rfl
    exact .here hunwrap hclass hkind

end Leads

/-! ## The walk -/

/-- The classes that were met, where one more is met. -/
def meet (c : ClassRef) (seen : List ClassRef) : List ClassRef :=
  if c ∈ seen then seen else seen ++ [c]

/-- The walk over types in order, from the classes that were met before to those met in the end. -/
inductive Walk (cat : Catalog) : List ClassRef → List TypeExpr → List ClassRef → Prop
  | nil {seen} : Walk cat seen [] seen
  /-- The type leads to no class. -/
  | leaf {seen t ts seen'} : (∀ c, ¬Leads cat t c) → Walk cat seen ts seen' →
      Walk cat seen (t :: ts) seen'
  /-- The type leads to a class of the program that was met before. -/
  | known {seen t c ts seen'} : Leads cat t c → cat.isCustom c = true → c ∈ seen →
      Walk cat seen ts seen' → Walk cat seen (t :: ts) seen'
  /-- The class is met, and the walk goes through its data members before it goes on. -/
  | enter {seen t c fields seen₁ ts seen'} : Leads cat t c →
      (cat.isCustom c = true → c ∉ seen) → cat.fieldsOf c = .ok fields →
      Walk cat (meet c seen) (fields.map (·.type)) seen₁ → Walk cat seen₁ ts seen' →
      Walk cat seen (t :: ts) seen'

/-- There is one walk at most. -/
theorem Walk.unique {seen seen' seen'' : List ClassRef} {ts : List TypeExpr}
    (h : Walk cat seen ts seen') (h' : Walk cat seen ts seen'') : seen' = seen'' := by
  induction h generalizing seen'' with
  | nil =>
      cases h'
      rfl
  | leaf hnone _ ih =>
      cases h' with
      | leaf _ hrest => exact ih hrest
      | known hleads _ _ _ => exact absurd hleads (hnone _)
      | enter hleads _ _ _ _ => exact absurd hleads (hnone _)
  | known hleads hcustom hmem _ ih =>
      cases h' with
      | leaf hnone _ => exact absurd hleads (hnone _)
      | known _ _ _ hrest => exact ih hrest
      | enter hleads' hnew _ _ _ =>
          obtain rfl := hleads.unique hleads'
          exact absurd hmem (hnew hcustom)
  | enter hleads hnew hfields _ _ ihfields ihrest =>
      cases h' with
      | leaf hnone _ => exact absurd hleads (hnone _)
      | known hleads' hcustom hmem _ =>
          obtain rfl := hleads.unique hleads'
          exact absurd hmem (hnew hcustom)
      | enter hleads' _ hfields' hwalk hrest =>
          obtain rfl := hleads.unique hleads'
          obtain rfl := Except.ok.inj (hfields.symm.trans hfields')
          obtain rfl := ihfields hwalk
          exact ihrest hrest

/-- Types that lead to the same class are walked alike. -/
theorem Walk.of_leads {seen seen' : List ClassRef} {t t' : TypeExpr} {ts : List TypeExpr}
    (h : Walk cat seen (t :: ts) seen') (hleads : ∀ c, Leads cat t' c ↔ Leads cat t c) :
    Walk cat seen (t' :: ts) seen' := by
  cases h with
  | leaf hnone hrest => exact .leaf (fun c hc => hnone c ((hleads c).mp hc)) hrest
  | known ht hcustom hmem hrest => exact .known ((hleads _).mpr ht) hcustom hmem hrest
  | enter ht hnew hfields hwalk hrest =>
      exact .enter ((hleads _).mpr ht) hnew hfields hwalk hrest

/-- A walk over one type goes on with the types after it. -/
theorem Walk.cons {seen seen₁ seen' : List ClassRef} {t : TypeExpr} {ts : List TypeExpr}
    (h : Walk cat seen [t] seen₁) (h' : Walk cat seen₁ ts seen') :
    Walk cat seen (t :: ts) seen' := by
  cases h with
  | leaf hnone hrest =>
      cases hrest
      exact .leaf hnone h'
  | known hleads hcustom hmem hrest =>
      cases hrest
      exact .known hleads hcustom hmem h'
  | enter hleads hnew hfields hwalk hrest =>
      cases hrest
      exact .enter hleads hnew hfields hwalk h'

end TypeSchema
