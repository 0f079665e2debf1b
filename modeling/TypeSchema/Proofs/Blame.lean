import TypeSchema.Proofs.ClassGraph
import TypeSchema.Proofs.Compile.Failure
import TypeSchema.Proofs.Compile.Root
import TypeSchema.Proofs.Declaration.Members
/-!
# The place of an error

An expression that has no schema is blamed on the place where it is written: on the root, or on the
data member of a class. Layers of lists and tuples do not change the place, and a class starts new
places for its data members. What has no schema is the expression at the place itself or an item
below the layers around it (`Obstructed`). So the place can be tried alone: whatever was visited
before, and with as many levels as there are from the start, its type fails in the same way
(`Obstructed.throws`).

`Fails.blame` follows an error to its place. It is an induction on the derivation of the failure;
the places move with the tasks, from a class to the data members that the edges of the class graph
come from.
-/

namespace TypeSchema

/-! ## Faults of expressions -/

/-- The second expression is what the first one holds, a list or a tuple inside its wrappers. -/
inductive Item (cat : Catalog) : TypeExpr → TypeExpr → Prop
  | tuple {t core found c item} : t.unwrap = .ok (core, found) → core.rawClass? = some c →
      cat.kindOf c = .fixedArray → core.elementOfTuple? = some item → Item cat t item
  | collection {t core found c item} : t.unwrap = .ok (core, found) → core.rawClass? = some c →
      cat.kindOf c = .collection → core.elementOfCollection? = some item → Item cat t item

/-- What is wrong with an expression itself, whatever its items are. -/
inductive Faulty (cat : Catalog) : TypeExpr → Unresolvable → Prop
  /-- The wrappers do not come off. -/
  | wrapper {t cause} : t.unwrap = .error cause → Faulty cat t (.noAlternative cause)
  /-- Inside the wrappers is no class. -/
  | unsupported {t core found} : t.unwrap = .ok (core, found) → core.rawClass? = none →
      Faulty cat t (.unsupported core)
  | tuple {t core found c} : t.unwrap = .ok (core, found) → core.rawClass? = some c →
      cat.kindOf c = .fixedArray → core.elementOfTuple? = none →
      Faulty cat t (.noSingleElement core)
  | collection {t core found c} : t.unwrap = .ok (core, found) → core.rawClass? = some c →
      cat.kindOf c = .collection → core.elementOfCollection? = none →
      Faulty cat t (.noElement core)

/-- Below less than `room` layers of lists and tuples there is an expression with the fault. -/
inductive Obstructed (cat : Catalog) : (room : Nat) → TypeExpr → Unresolvable → Prop
  | here {room t cause} : Faulty cat t cause → Obstructed cat (room + 1) t cause
  | item {room t item cause} : Item cat t item → Obstructed cat room item cause →
      Obstructed cat (room + 1) t cause

variable {cat : Catalog} {t : TypeExpr} {given : Option Json} {cause : Unresolvable}

theorem Form.ofItem_eq_error_iff {cause' : Unresolvable} {item : Option TypeExpr}
    {d : Option Json} :
    Form.ofItem cause' item d = .error cause ↔ item = none ∧ cause' = cause := by
  cases item with
  | none => simp [Form.ofItem]
  | some t => simp [Form.ofItem]

/-- An expression without a form is one with a fault. -/
theorem faulty_of_form (h : cat.form t given = .error cause) : Faulty cat t cause := by
  unfold Catalog.form at h
  split at h
  · next hunwrap =>
    obtain rfl := Except.error.inj h
    exact .wrapper hunwrap
  · next core found hunwrap =>
    split at h
    · next hclass =>
      obtain rfl := Except.error.inj h
      exact .unsupported hunwrap hclass
    · next c hclass =>
      -- Of the kinds of classes only those of tuples and of collections ask for more.
      unfold Catalog.formOf at h
      split at h
      case h_6 hkind =>
        obtain ⟨hitem, rfl⟩ := Form.ofItem_eq_error_iff.mp h
        exact .tuple hunwrap hclass hkind hitem
      case h_7 hkind =>
        obtain ⟨hitem, rfl⟩ := Form.ofItem_eq_error_iff.mp h
        exact .collection hunwrap hclass hkind hitem
      all_goals exact absurd h (by simp)

theorem Faulty.form_eq (h : Faulty cat t cause) (given : Option Json) :
    cat.form t given = .error cause := by
  cases h with
  | wrapper hunwrap => rw [Catalog.form, hunwrap]
  | unsupported hunwrap hclass =>
      rw [Catalog.form, hunwrap]
      dsimp only
      rw [hclass]
  | tuple hunwrap hclass hkind hitem =>
      rw [Catalog.form_of_class hunwrap hclass, Catalog.formOf, hkind, hitem]
      rfl
  | collection hunwrap hclass hkind hitem =>
      rw [Catalog.form_of_class hunwrap hclass, Catalog.formOf, hkind, hitem]
      rfl

theorem item_of_form {item : TypeExpr} {d : Option Json}
    (h : cat.form t given = .ok (.array item d)) : Item cat t item := by
  obtain ⟨core, found, c, hunwrap, hclass, ⟨hkind, hitem⟩ | ⟨hkind, hitem⟩⟩ :=
    Catalog.array_of_form h
  · exact .tuple hunwrap hclass hkind hitem
  · exact .collection hunwrap hclass hkind hitem

/-- An expression with items is compiled to an array. -/
theorem Item.exists_form {item : TypeExpr} (h : Item cat t item) (given : Option Json) :
    ∃ d, cat.form t given = .ok (.array item d) := by
  cases h with
  | tuple hunwrap hclass hkind hitem =>
      exact Catalog.exists_form_of_element hunwrap hclass (.inl ⟨hkind, hitem⟩) given
  | collection hunwrap hclass hkind hitem =>
      exact Catalog.exists_form_of_element hunwrap hclass (.inr ⟨hkind, hitem⟩) given

namespace Obstructed

variable {room room' : Nat}

theorem mono (h : Obstructed cat room t cause) (hroom : room ≤ room') :
    Obstructed cat room' t cause := by
  induction h generalizing room' with
  | here hfault =>
      obtain ⟨k, rfl⟩ := Nat.exists_eq_add_of_lt hroom
      exact .here hfault
  | item hitem _ ih =>
      obtain ⟨k, rfl⟩ := Nat.exists_eq_add_of_lt hroom
      exact .item hitem (ih (Nat.le_add_right _ k))

/-- The expression with the fault is the expression itself or below its layers. -/
theorem exists_faulty (h : Obstructed cat room t cause) :
    ∃ s, Relation.ReflTransGen (Item cat) t s ∧ Faulty cat s cause := by
  induction h with
  | here hfault => exact ⟨_, .refl, hfault⟩
  | item hitem _ ih =>
      obtain ⟨s, hpath, hfault⟩ := ih
      exact ⟨s, .head hitem hpath, hfault⟩

open Compile in
/-- The expression does not compile at any place, whatever was visited before. -/
theorem throws (h : Obstructed cat room t cause) (limit : Int) (given : Option Json)
    (place : Location) (L : Ledger TypeExpr) :
    Throws (element cat limit room t given place) L (.unresolvable cause place) := by
  induction h generalizing given with
  | here hfault =>
      rw [element_succ, hfault.form_eq given]
      exact throws_throw_iff.mpr rfl
  | item hitem _ ih =>
      obtain ⟨d, hform⟩ := hitem.exists_form given
      rw [element_succ, hform]
      exact throws_bind_iff.mpr (.inl (ih none))

end Obstructed

namespace Compile

/-! ## Errors followed to their places -/

/-- The class is to blame for the error: its data members cannot be listed, or one of them is
obstructed. -/
inductive Blamed (cat : Catalog) (room : Nat) (c : ClassRef) : Unresolvable → Location → Prop
  | listing {absence name} : cat.fieldsOf c = .error (.undefinedName absence name) →
      Blamed cat room c (.undefinedName absence name) ⟨some c.toExpr, none⟩
  | member {fields f cause} : cat.fieldsOf c = .ok fields → f ∈ fields →
      Obstructed cat room f.type cause → Blamed cat room c cause ⟨some c.toExpr, some f.name⟩

/-- An error of a task is blamed on the place of the task, or on a class that the task reaches. -/
def BlamedBelow (cat : Catalog) (room : Nat) (cause : Unresolvable) (location place : Location) :
    Task → Prop
  | .type t _ => (place = location ∧ Obstructed cat room t cause) ∨
      ∃ c, Reaches cat t c ∧ Blamed cat room c cause place
  | .object c _ => ∃ c', Relation.ReflTransGen (Edge cat) c c' ∧ Blamed cat room c' cause place
  | .members fields => ∃ f ∈ fields,
      (place = ⟨location.owner, some f.name⟩ ∧ Obstructed cat room f.type cause) ∨
      ∃ c, Reaches cat f.type c ∧ Blamed cat room c cause place

variable {limit : Int} {room : Nat} {c : ClassRef} {location place : Location}

theorem Blamed.mono {room' : Nat} (h : Blamed cat room c cause place) (hroom : room ≤ room') :
    Blamed cat room' c cause place := by
  cases h with
  | listing hfields => exact .listing hfields
  | member hfields hf hobstructed => exact .member hfields hf (hobstructed.mono hroom)

theorem blamed_of_membersError {e : EvalError} (hfields : cat.fieldsOf c = .error e)
    (h : membersError c e = .unresolvable cause place) : Blamed cat room c cause place := by
  cases e with
  | undefinedName absence name =>
      obtain ⟨rfl, rfl⟩ := SchemaError.unresolvable.inj h
      exact .listing hfields
  | _ => exact absurd h (by simp [membersError])

/-- What the type of a data member reaches is reached from the class along edges. -/
theorem reaches_of_edge {fields : List SchemaField} {f : SchemaField} {c' : ClassRef}
    (hfields : cat.fieldsOf c = .ok fields) (hf : f ∈ fields) (h : Reaches cat f.type c') :
    Relation.ReflTransGen (Edge cat) c c' := by
  obtain ⟨r, hleads, hpath⟩ := h
  exact .head ⟨fields, hfields, f, hf, hleads⟩ hpath

theorem Fails.blame {L : Ledger TypeExpr} {task : Task}
    (h : Fails cat limit room L task location (.unresolvable cause place)) :
    BlamedBelow cat room cause location place task := by
  generalize he : SchemaError.unresolvable cause place = e at h
  induction h with
  | tooDeep => exact absurd he (by simp)
  | form hform =>
      obtain ⟨rfl, rfl⟩ := SchemaError.unresolvable.inj he
      exact .inl ⟨rfl, .here (faulty_of_form hform)⟩
  | @array room _ t _ _ item _ _ hform _ ih =>
      -- The items are at the place of the array.
      rcases ih he with ⟨hplace, hitem⟩ | ⟨c, ⟨r, hleads, hpath⟩, hblame⟩
      · exact .inl ⟨hplace, .item (item_of_form hform) hitem⟩
      · have hleads' : Leads cat t r := (Leads.iff_of_array hform).mpr hleads
        exact .inr ⟨c, ⟨r, hleads', hpath⟩, hblame.mono (Nat.le_succ room)⟩
  | @object room _ t _ _ c _ _ hform _ ih =>
      obtain ⟨c', hpath, hblame⟩ := ih he
      have hleads : Leads cat t c := (Leads.iff_of_object hform).mpr rfl
      exact .inr ⟨c', ⟨c, hleads, hpath⟩, hblame.mono (Nat.le_succ room)⟩
  | listing _ hfields => exact ⟨_, .refl, blamed_of_membersError hfields he.symm⟩
  | fresh _ hfields _ ih =>
      obtain ⟨f, hf, ⟨rfl, hobstructed⟩ | ⟨c', hreaches, hblame⟩⟩ := ih he
      · exact ⟨_, .refl, .member hfields hf hobstructed⟩
      · exact ⟨c', reaches_of_edge hfields hf hreaches, hblame⟩
  | head _ ih => exact ⟨_, List.mem_cons_self, ih he⟩
  | tail _ _ ih =>
      obtain ⟨f, hf, hblame⟩ := ih he
      exact ⟨f, List.mem_cons_of_mem _ hf, hblame⟩

/-- A class whose data members name something undefined cannot be listed. -/
theorem throws_fieldsOf {absence : Absence} {name : String}
    (h : cat.fieldsOf c = .error (.undefinedName absence name)) (L : Ledger TypeExpr) :
    Throws (fieldsOf cat c.toExpr) L
      (.unresolvable (.undefinedName absence name) ⟨some c.toExpr, none⟩) := by
  unfold fieldsOf
  rw [TypeExpr.asClass?_toExpr]
  dsimp only
  rw [h]
  exact throws_throw_iff.mpr rfl

end Compile

namespace Catalog

open Compile

/-- An expression without a schema is blamed on the place where it is written. At the root it is the
root type or below the layers of lists and tuples on top of it. At a data member the class is behind
the root type or reached from there, and the type of a data member of this name fails alone. At a
class the data members of the class cannot be listed. -/
theorem build_unresolvable {limit : Int} {place : Location}
    (h : cat.build limit t = .error (.unresolvable cause place)) :
    (place.owner = none → place.field = none ∧
      ∃ s, Relation.ReflTransGen (Item cat) t s ∧ Faulty cat s cause) ∧
    (∀ o name, place.owner = some o → place.field = some name →
      ∃ c, o = c.toExpr ∧ Reaches cat t c ∧ ∃ fields, cat.fieldsOf c = .ok fields ∧
        ∃ f ∈ fields, f.name = name ∧
          Throws (elementAt cat limit 0 f.type none place) .empty (.unresolvable cause place)) ∧
    (∀ o, place.owner = some o → place.field = none →
      ∃ c, o = c.toExpr ∧ Reaches cat t c ∧
        Throws (Compile.fieldsOf cat o) .empty (.unresolvable cause place)) := by
  rcases build_fails h with ⟨-, heq⟩ | ⟨hlimit, hfails⟩
  · exact absurd heq (by simp)
  rcases hfails.blame with ⟨rfl, hobstructed⟩ | ⟨c, hreaches, hblame⟩
  · refine ⟨fun _ => ⟨rfl, hobstructed.exists_faulty⟩, fun o name howner => ?_, fun o howner => ?_⟩
    · exact absurd howner (by simp [Location.root])
    · exact absurd howner (by simp [Location.root])
  · cases hblame with
    | listing hfields =>
        refine ⟨fun howner => absurd howner (by simp), fun o name _ hfield => ?_, ?_⟩
        · exact absurd hfield (by simp)
        · rintro o howner -
          obtain rfl := Option.some.inj howner
          exact ⟨c, rfl, hreaches, throws_fieldsOf hfields .empty⟩
    | @member fields f _ hfields hf hobstructed =>
        refine ⟨fun howner => absurd howner (by simp), ?_, fun o _ hfield => ?_⟩
        · intro o name howner hname
          obtain rfl := Option.some.inj howner
          obtain rfl := Option.some.inj hname
          refine ⟨c, rfl, hreaches, fields, hfields, f, hf, rfl, ?_⟩
          rw [elementAt, roomAt_zero hlimit]
          exact hobstructed.throws limit none _ .empty
        · exact absurd hfield (by simp)

/-- A program that declares lines with an amount that may be of two kinds, invoices with lists of
lines, and drafts with a note of a kind that is declared nowhere. -/
def invoices : Catalog :=
  let declare (cat : Catalog) (name field : String) (type : Expression) : Catalog :=
    (cat.declare (.cls .plain { ClassHead.ofName name none with
      fields := [⟨field, type, .plain⟩] } [])).2
  let lines := declare empty "Line" "amount" (.binary .bitOr (.name "int") (.name "str"))
  let invoices := declare lines "Invoice" "lines" (.subscript (.name "list") [.name "Line"])
  declare invoices "Draft" "note" (.constant (.string "Note"))

/-- What is computed of an error is the error. -/
theorem build_eq_unresolvable {limit : Int} {place : Location}
    (h : (match cat.build limit t with
      | .error (.unresolvable cause' place') => decide (cause' = cause ∧ place' = place)
      | _ => false) = true) : cat.build limit t = .error (.unresolvable cause place) := by
  split at h
  · next hbuild =>
    obtain ⟨rfl, rfl⟩ := of_decide_eq_true h
    exact hbuild
  · exact absurd h (by simp)

/-- What an amount may be. -/
def amount : TypeExpr := .union .bars [.builtin .int, .builtin .str]

/-- Lists of amounts are blamed on the root, the amounts in the lines of an invoice on the line, and
what is declared nowhere on the class that names it. -/
theorem build_unresolvable_invoices :
    (∃ cause, invoices.build 8 (.subscript (.direct (.builtin .list)) [amount]) =
        .error (.unresolvable cause .root) ∧
      ∃ s, Relation.ReflTransGen (Item invoices) (.subscript (.direct (.builtin .list)) [amount]) s ∧
        Faulty invoices s cause) ∧
    (∃ cause place, invoices.build 8 (ClassRef.declared 1).toExpr =
        .error (.unresolvable cause place) ∧ place.field = some "amount" ∧
      ∃ c, (ClassRef.declared 0).toExpr = c.toExpr ∧
        Reaches invoices (ClassRef.declared 1).toExpr c ∧
        ∃ fields, invoices.fieldsOf c = .ok fields ∧ ∃ f ∈ fields, f.name = "amount" ∧
          Throws (elementAt invoices 8 0 f.type none place) .empty (.unresolvable cause place)) ∧
    ∃ cause place, invoices.build 8 (ClassRef.declared 2).toExpr =
        .error (.unresolvable cause place) ∧ place.field = none ∧
      ∃ c, (ClassRef.declared 2).toExpr = c.toExpr ∧
        Reaches invoices (ClassRef.declared 2).toExpr c ∧
        Throws (Compile.fieldsOf invoices (ClassRef.declared 2).toExpr) .empty
          (.unresolvable cause place) := by
  have hroot : invoices.build 8 (.subscript (.direct (.builtin .list)) [amount]) =
      .error (.unresolvable (.noAlternative (.severalAlternatives amount)) .root) :=
    build_eq_unresolvable (by decide +kernel)
  have hmember : invoices.build 8 (ClassRef.declared 1).toExpr =
      .error (.unresolvable (.noAlternative (.severalAlternatives amount))
        ⟨some (ClassRef.declared 0).toExpr, some "amount"⟩) :=
    build_eq_unresolvable (by decide +kernel)
  have hclass : invoices.build 8 (ClassRef.declared 2).toExpr =
      .error (.unresolvable (.undefinedName .undefined "Note")
        ⟨some (ClassRef.declared 2).toExpr, none⟩) :=
    build_eq_unresolvable (by decide +kernel)
  refine ⟨⟨_, hroot, ?_⟩, ⟨_, _, hmember, rfl, ?_⟩, ⟨_, _, hclass, rfl, ?_⟩⟩
  · exact ((build_unresolvable hroot).1 rfl).2
  · exact (build_unresolvable hmember).2.1 _ _ rfl rfl
  · exact (build_unresolvable hclass).2.2 _ rfl rfl

end Catalog

end TypeSchema
