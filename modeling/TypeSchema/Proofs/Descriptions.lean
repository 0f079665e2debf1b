import TypeSchema.Proofs.Objects
/-!
# Descriptions of data members

The description of a member is the one it is given, else the first one in its type, else, where
it becomes a text, an enumeration or an object, that of its class. The compiler follows this rule
wherever it builds a node (`Builds.description_or_holds`). The object of a class of the program is
built once and handed out as it is afterwards, with the description of its first use: another use
has its own description exactly if the two agree (`build_descriptions_iff`).
-/

namespace TypeSchema

/-- The description of a node. References have none, nor has what is written as it is. -/
def Node.description : Node → Option Json
  | .leaf _ d => d
  | .enum _ d => d
  | .array _ d _ => d
  | .object _ _ d _ => d
  | .anyOf _ d => d
  | .derived _ _ base => base.description
  | .reference _ | .custom _ | .abstract _ _ | .foreign _ => none

/-- The description of what a form is built to. -/
def Form.description (cat : Catalog) : Form → Option Json
  | .scalar n => n.description
  | .array _ d => d
  | .object c d => Compile.withFallback cat d c.toExpr

namespace Catalog

/-- The description that a use of a type expression asks for, where one may be given: that one,
else the first one inside the wrappers, else that of the class where it is written as a text, an
enumeration or an object. -/
def descriptionOf (cat : Catalog) (t : TypeExpr) (given : Option Json) : Option Json :=
  match t.unwrap with
  | .error _ => given
  | .ok (core, found) =>
    let explicit := given <|> found.map .string
    match core.rawClass? with
    | none => explicit
    | some c =>
      match cat.kindOf c with
      | .string | .enumeration | .object =>
        explicit <|> (cat.typeDescription? c.toExpr).map .string
      | .integer | .number | .boolean | .fixedArray | .collection => explicit

variable {cat : Catalog} {t : TypeExpr} {given : Option Json}

/-- A form has the description that the use of its expression asks for. -/
theorem description_of_form {f : Form} (h : cat.form t given = .ok f) :
    f.description cat = cat.descriptionOf t given := by
  obtain ⟨core, found, c, hunwrap, hclass, hform⟩ := form_eq_ok_iff.mp h
  simp only [descriptionOf, hunwrap, hclass]
  unfold formOf at hform
  cases hkind : cat.kindOf c <;> rw [hkind] at hform <;> dsimp only at hform ⊢
  case fixedArray =>
    obtain ⟨item, -, rfl⟩ := ofItem_eq_ok hform
    rfl
  case collection =>
    obtain ⟨item, -, rfl⟩ := ofItem_eq_ok hform
    rfl
  all_goals
    obtain rfl := Except.ok.inj hform
    rfl

end Catalog

namespace Compile

variable {cat : Catalog} {L L' : Ledger TypeExpr} {room : Nat} {t : TypeExpr}
  {given : Option Json} {m : Node}

/-- What is built for a use of a type is a reference, or it is the one object of a class of the
program, or it has the description that the use asks for. -/
theorem Builds.description_or_holds (h : Builds cat room L (.type t given) (.node m) L')
    (hL : Sound cat L) :
    isReference m = true ∨
    (∃ c e, cat.form t given = .ok (.object c e) ∧ cat.isCustom c = true ∧ Holds L' c m) ∨
    ((∀ c e, cat.form t given = .ok (.object c e) → cat.isCustom c = false) ∧
      m.description = cat.descriptionOf t given) := by
  cases h with
  | scalar hform =>
      refine .inr (.inr ⟨fun c e hform' => ?_, Catalog.description_of_form hform⟩)
      exact absurd (hform.symm.trans hform') (by simp)
  | array hform _ =>
      refine .inr (.inr ⟨fun c e hform' => ?_, Catalog.description_of_form hform⟩)
      exact absurd (hform.symm.trans hform') (by simp)
  | @object _ _ _ _ _ c e _ hform hobject =>
      cases hobject with
      | placeholder _ _ href => exact .inl href
      | reuse hcustom he href => exact .inr (.inl ⟨c, e, hform, hcustom, _, he, rfl, href⟩)
      | fresh hnew _ hbuilt =>
          obtain ⟨hL₁, hext, -⟩ := hbuilt.sound (hL.opened hnew)
          -- A class of the language is built for this use alone, one of the program for all uses.
          cases hcustom : cat.isCustom c with
          | true => exact .inr (.inl ⟨c, e, hform, hcustom, holds_store_self hL₁ hext hcustom rfl⟩)
          | false =>
              refine .inr (.inr ⟨fun c' e' hform' => ?_, Catalog.description_of_form hform⟩)
              obtain ⟨rfl, -⟩ := Form.object.inj (Except.ok.inj (hform.symm.trans hform'))
              exact hcustom

/-- So it is with the members of an object that is made, if their names do not come again; the
ledger holds the objects of the classes of the program in the end. -/
theorem Makes.member {x : Call} {result : Result} {c : ClassRef} {d : Option Json}
    {built : List (String × Node)} {fields : List SchemaField} {f : SchemaField}
    (h : Makes cat x c d built) (hx : Builds cat x.room x.ledger x.task result L')
    (hL : Sound cat x.ledger) (hfields : cat.fieldsOf c = .ok fields) (hf : f ∈ fields)
    (honce : (fields.map (·.name)).count f.name = 1) :
    ∃ m, (f.name, m) ∈ OrderedMap.ofList built ∧ (isReference m = true ∨
      (∃ c e, cat.form f.type f.description = .ok (.object c e) ∧ cat.isCustom c = true ∧
        Holds L' c m) ∨
      ((∀ c e, cat.form f.type f.description = .ok (.object c e) → cat.isCustom c = false) ∧
        m.description = cat.descriptionOf f.type f.description)) := by
  obtain ⟨room, fields', L₀, L₁, -, -, hfields', hpath, hbuilt, -⟩ := h.builds hx hL
  obtain rfl := Except.ok.inj (hfields.symm.trans hfields')
  obtain ⟨L₂, L₃, m, hpath', hm, hmem⟩ := hbuilt.member hf honce
  obtain ⟨hL₂, _, L₄, hm', hretains⟩ := hx.of_calls (hpath.trans hpath') hL
  obtain ⟨-, rfl⟩ := hm.unique hm'
  refine ⟨m, hmem, (hm.description_or_holds hL₂).imp_right (Or.imp_left ?_)⟩
  rintro ⟨c', e, hform, hcustom, hholds⟩
  exact ⟨c', e, hform, hcustom, hretains.holds hcustom hholds⟩

end Compile

namespace Catalog

open Compile

variable {cat : Catalog} {limit : Int} {t : TypeExpr} {n : Node}

/-- A member has the description it asks for exactly if it is no object that was built for a use
with another one. The object of every class that is visited is made, and a schema shows no
others. -/
theorem build_descriptions_iff (h : cat.build limit t = .ok n) :
    (∀ c, c ∈ visited (cat.visits limit t) ↔ ∃ e ps, cat.Makes limit t c e ps) ∧
    (∀ ps required d ds, .object ps required d ds ∈ n.walk →
      ∃ c e, cat.Makes limit t c e ps ∧ d = withFallback cat e c.toExpr) ∧
    ∀ c e ps fields f, cat.Makes limit t c e ps → cat.fieldsOf c = .ok fields → f ∈ fields →
      (fields.map (·.name)).count f.name = 1 →
      ∃ m, OrderedMap.find? f.name ps = some m ∧ (isReference m = false →
        (m.description = cat.descriptionOf f.type f.description ↔
          ∀ c' e' first ps', cat.form f.type f.description = .ok (.object c' e') →
            cat.isCustom c' = true → cat.Makes limit t c' first ps' →
            withFallback cat first c'.toExpr = withFallback cat e' c'.toExpr)) := by
  refine ⟨fun c => mem_visited_iff_makes h, fun ps required d ds => makes_of_mem_walk h, ?_⟩
  rintro c e _ fields f ⟨built, hmade, rfl⟩ hfields hf honce
  obtain ⟨-, root, hroot, -⟩ := build_builds h
  obtain ⟨m, hmem, hcases⟩ := hmade.member hroot .empty hfields hf honce
  refine ⟨m, OrderedMap.find?_of_mem (OrderedMap.nodup_keys_ofList _) hmem, fun href => ?_⟩
  rcases hcases with href' | ⟨c', e', hform, hcustom, hholds⟩ | ⟨hother, hdescription⟩
  · exact absurd (href.symm.trans href') (by simp)
  -- The member is the object of its class, which has the description it was made with.
  · rw [← description_of_form hform]
    constructor
    · rintro hdescription c'' e'' first _ hform' hcustom' ⟨built', hmade', rfl⟩
      obtain ⟨rfl, rfl⟩ := Form.object.inj (Except.ok.inj (hform.symm.trans hform'))
      obtain rfl := hholds.unique (hmade'.holds hroot .empty hcustom')
      exact hdescription
    · intro hagree
      obtain ⟨first, built', hmade', rfl⟩ := (hroot.holds_iff hcustom).mp hholds
      exact hagree c' e' first _ hform hcustom ⟨built', hmade', rfl⟩
  · refine ⟨fun _ c' e' first ps' hform hcustom _ => ?_, fun _ => hdescription⟩
    exact absurd (hcustom.symm.trans (hother c' e' hform)) (by simp)

/-- The two members of a couple are of one class. -/
def partners : List SchemaField :=
  [⟨"one", (ClassRef.declared 0).toExpr, some (.string "The one")⟩,
   ⟨"other", (ClassRef.declared 0).toExpr, some (.string "The other")⟩]

def couples : Catalog :=
  .ofFields [("Person", [⟨"name", .builtin .str, none⟩]), ("Couple", partners)]

theorem exists_build_couples :
    ∃ n ps m, couples.build 8 (ClassRef.declared 1).toExpr = .ok n ∧
      couples.Makes 8 (ClassRef.declared 1).toExpr (.declared 1) none ps ∧
      OrderedMap.find? "other" ps = some m ∧ isReference m = false ∧
      m.description = some (.string "The one") := by
  let person := Node.object [("name", .leaf .string none)] (some ["name"])
    (some (.string "The one")) none
  have hn : couples.build 8 (ClassRef.declared 1).toExpr =
      .ok (.object [("one", person), ("other", person)] (some ["one", "other"]) none none) := by
    with_unfolding_all rfl
  obtain ⟨ps, _, _, _, heq, hmakes⟩ := makes_root hn rfl
  obtain ⟨rfl, -⟩ := Node.object.inj heq
  exact ⟨_, _, person, hn, hmakes, rfl, rfl, rfl⟩

/-- The second member asks for a description of its own and has that of the first. -/
theorem build_description_lost :
    ∃ n ps m, couples.build 8 (ClassRef.declared 1).toExpr = .ok n ∧
      couples.Makes 8 (ClassRef.declared 1).toExpr (.declared 1) none ps ∧
      couples.fieldsOf (.declared 1) = .ok partners ∧
      ∃ f ∈ partners, (partners.map (·.name)).count f.name = 1 ∧
        OrderedMap.find? f.name ps = some m ∧ isReference m = false ∧
        couples.descriptionOf f.type f.description = some (.string "The other") ∧
        m.description = some (.string "The one") := by
  obtain ⟨n, ps, m, hn, hmakes, hm, href, hdescription⟩ := exists_build_couples
  exact ⟨n, ps, m, hn, hmakes, rfl, _, List.mem_cons_of_mem _ List.mem_cons_self, rfl, hm, href,
    rfl, hdescription⟩

theorem build_descriptions_iff_couples :
    ∃ n ps m, couples.build 8 (ClassRef.declared 1).toExpr = .ok n ∧
      couples.Makes 8 (ClassRef.declared 1).toExpr (.declared 1) none ps ∧
      OrderedMap.find? "other" ps = some m ∧ isReference m = false ∧
      ∃ c e first ps', couples.form (ClassRef.declared 0).toExpr (some (.string "The other")) =
          .ok (.object c e) ∧ couples.isCustom c = true ∧
        couples.Makes 8 (ClassRef.declared 1).toExpr c first ps' ∧
        withFallback couples first c.toExpr ≠ withFallback couples e c.toExpr := by
  obtain ⟨n, ps, m, hn, hmakes, hm, href, hdescription⟩ := exists_build_couples
  obtain ⟨-, -, hmembers⟩ := build_descriptions_iff hn
  obtain ⟨m', hm', hiff⟩ := hmembers (.declared 1) none ps partners
    ⟨"other", (ClassRef.declared 0).toExpr, some (.string "The other")⟩ hmakes rfl
    (List.mem_cons_of_mem _ List.mem_cons_self) rfl
  obtain rfl := Option.some.inj (hm.symm.trans hm')
  refine ⟨n, ps, m, hn, hmakes, hm, href, ?_⟩
  by_contra hnone
  have hagree := (hiff href).mpr fun c e first ps' hform hcustom hfirst => by
    by_contra hne
    exact hnone ⟨c, e, first, ps', hform, hcustom, hfirst, hne⟩
  exact absurd (hdescription.symm.trans hagree) (by decide +kernel)

end Catalog

end TypeSchema
