import TypeSchema.Node.Equality
import TypeSchema.Proofs.Annotations
import TypeSchema.Proofs.Objects
/-!
# Data members and properties

The data members of a class are built one after the other, each from the ledger that the one before
it left (`Builds.entries`). The properties of the object are kept by name, so that two data members
of one name share a place: the place of the first, with the node of the last. An object therefore
has a property for every data member exactly when no two of them have the same name
(`build_properties_iff`). Annotations never give two data members of one name
(`nodup_names_of_hints`), but published names and registered lists may (`build_property_lost`).
-/

namespace TypeSchema

namespace Compile

variable {cat : Catalog} {L L' : Ledger TypeExpr} {room : Nat} {x : Call}
  {fields : List SchemaField} {built : List (String × Node)}

/-- On the way from a call the node is built for the data member, under the name of the data
member. -/
def IsEntry (cat : Catalog) (x : Call) (f : SchemaField) (p : String × Node) : Prop :=
  p.1 = f.name ∧ ∃ room L L', Reached cat x ⟨room, L, .type f.type f.description⟩ ∧
    Builds cat room L (.type f.type f.description) (.node p.2) L'

/-- Members are built one by one, in the order in which they are declared. -/
theorem Builds.entries (h : Builds cat room L (.members fields) (.members built) L')
    (hx : Reached cat x ⟨room, L, .members fields⟩) :
    List.Forall₂ (IsEntry cat x) fields built := by
  induction fields generalizing built L with
  | nil =>
      cases h
      exact .nil
  | cons f fields ih =>
      cases h with
      | cons hn hbuilt =>
          refine .cons ⟨rfl, room, L, _, hx.tail .head, hn⟩ ?_
          -- The members after the first are built from the ledger that it leaves.
          exact ih hbuilt (hx.tail (.tail hn))

/-- The properties are the members, or fewer. -/
theorem length_properties_iff :
    (OrderedMap.ofList built).length = built.length ↔ (OrderedMap.keys built).Nodup := by
  constructor
  · exact OrderedMap.nodup_keys_of_length
  · intro hnodup
    rw [OrderedMap.ofList_of_nodup hnodup]

end Compile

namespace Catalog

open Compile

variable {cat : Catalog} {limit : Int} {t : TypeExpr} {n : Node} {c : ClassRef}

/-- The object of each visited class has a property for every name of a data member, in the order in
which the names first occur, and requires them all. Its properties are the data members one by one,
with the nodes that were built for them, exactly when no two data members have the same name; else
there are fewer. -/
theorem build_properties_iff (h : cat.build limit t = .ok n) :
    (∀ c, c ∈ visited (cat.visits limit t) ↔
      ∃ e built, Compile.Makes cat ⟨limit.toNat + 1, .empty, .type t none⟩ c e built) ∧
    ∀ c e built, Compile.Makes cat ⟨limit.toNat + 1, .empty, .type t none⟩ c e built →
      ∃ fields ps required d, cat.fieldsOf c = .ok fields ∧
        List.Forall₂ (IsEntry cat ⟨limit.toNat + 1, .empty, .type t none⟩) fields built ∧
        objectNode cat c e built = .object ps (some required) d none ∧
        (cat.isCustom c = true → Holds (cat.visits limit t) c (objectNode cat c e built)) ∧
        required = OrderedMap.keys ps ∧
        OrderedMap.keys ps = (fields.map (·.name)).eraseDups ∧
        ((ps = built ∧ required = fields.map (·.name)) ↔ (fields.map (·.name)).Nodup) ∧
        (ps.length = fields.length ↔ (fields.map (·.name)).Nodup) := by
  obtain ⟨-, m, hm, -⟩ := build_builds h
  constructor
  · intro c
    rw [mem_visited_iff_makes h]
    constructor
    · rintro ⟨e, _, built, hmakes, -⟩
      exact ⟨e, built, hmakes⟩
    · rintro ⟨e, built, hmakes⟩
      exact ⟨e, _, built, hmakes, rfl⟩
  · intro c e built hmakes
    obtain ⟨room, fields, L₀, L₁, -, -, hfields, hpath, hbuilt, -⟩ := hmakes.builds hm .empty
    have hentries := hbuilt.entries hpath
    have hkeys : OrderedMap.keys built = fields.map (·.name) := hbuilt.keys_members
    have hlength : fields.length = built.length := hentries.length_eq
    have hproperties : OrderedMap.keys (OrderedMap.ofList built) =
        (fields.map (·.name)).eraseDups := by rw [OrderedMap.keys_ofList, hkeys]
    refine ⟨fields, OrderedMap.ofList built, _, _, hfields, hentries, rfl,
      hmakes.holds hm .empty, rfl, hproperties, ?_, ?_⟩
    · constructor
      · rintro ⟨hsame, -⟩
        rw [← hkeys, ← hsame]
        exact OrderedMap.nodup_keys_ofList built
      · intro hnodup
        have hsame : OrderedMap.ofList built = built :=
          OrderedMap.ofList_of_nodup (hkeys ▸ hnodup)
        exact ⟨hsame, by rw [hsame, hkeys]⟩
    · rw [hlength, ← hkeys]
      exact length_properties_iff

theorem build_properties_iff_households :
    ∃ n built fields, households.build 8 (ClassRef.declared 0).toExpr = .ok n ∧
      Compile.Makes households ⟨9, .empty, .type (ClassRef.declared 0).toExpr none⟩ (.declared 0) none
        built ∧
      households.fieldsOf (.declared 0) = .ok fields ∧
      fields.map (·.name) = ["parts", "owner"] ∧
      ∃ d, objectNode households (.declared 0) none built =
        .object built (some ["parts", "owner"]) d none := by
  obtain ⟨n, hn, -⟩ := exists_build_households
  have hform : households.form (ClassRef.declared 0).toExpr none =
      .ok (.object (.declared 0) none) := form_declared (by decide +kernel)
  obtain ⟨_, _, _, _, -, built, hmakes, -⟩ := makes_root hn hform
  obtain ⟨-, hobjects⟩ := build_properties_iff hn
  obtain ⟨fields, ps, required, d, hfields, -, hobject, -, -, -, hiff, -⟩ :=
    hobjects _ _ _ hmakes
  have hnames : fields.map (·.name) = ["parts", "owner"] := by
    obtain rfl := Except.ok.inj hfields
    rfl
  obtain ⟨rfl, rfl⟩ := hiff.mpr (by rw [hnames]; decide)
  exact ⟨n, ps, fields, hn, hmakes, hfields, hnames, d, by rw [hobject, hnames]⟩

/-- A program that declares a model with two fields that are published under one name. -/
def tickets : Catalog :=
  let published (name : String) (type : Expression) : FieldDecl :=
    ⟨name, type, { FieldOptions.plain with publishedAs := some "seat", isCustomized := true }⟩
  (empty.declare (.cls (.model false) { ClassHead.ofName "Ticket" none with
    fields := [published "row" (.name "int"), published "column" (.name "str"),
      ⟨"paid", .name "bool", .plain⟩] } [])).2

/-- The properties of a node. -/
def propertiesOf : Node → List (String × Node)
  | .object ps _ _ _ => ps
  | _ => []

theorem eq_leaf_of_same {k : LeafKind} {n : Node} (h : (Node.leaf k none).same n = true) :
    n = .leaf k none := by
  cases n with
  | leaf l d => cases d <;> simp_all [Node.same, Node.sameDescription]
  | _ => simp [Node.same] at h

/-- There are three data members and two properties. The first has the name of two data members and
the node of the second. -/
theorem build_property_lost :
    tickets.Declared ∧
    ∃ n ps fields, tickets.build 8 (ClassRef.declared 0).toExpr = .ok n ∧
      tickets.Makes 8 (ClassRef.declared 0).toExpr (.declared 0) none ps ∧
      tickets.fieldsOf (.declared 0) = .ok fields ∧
      fields.map (·.name) = ["seat", "seat", "paid"] ∧
      OrderedMap.keys ps = ["seat", "paid"] ∧
      OrderedMap.find? "seat" ps = some (.leaf .string none) := by
  obtain ⟨n, hn, hproperties⟩ : ∃ n, tickets.build 8 (ClassRef.declared 0).toExpr = .ok n ∧
      (decide (OrderedMap.keys (propertiesOf n) = ["seat", "paid"]) &&
        (OrderedMap.find? "seat" (propertiesOf n)).any (Node.leaf .string none).same) = true :=
    exists_build (by decide +kernel)
  obtain ⟨fields, hfields, hnames⟩ := exists_ok (x := tickets.fieldsOf (.declared 0))
    (p := fun fields => decide (fields.map (·.name) = ["seat", "seat", "paid"])) (by decide +kernel)
  have hform : tickets.form (ClassRef.declared 0).toExpr none =
      .ok (.object (.declared 0) none) := form_declared (by decide +kernel)
  obtain ⟨ps, _, _, _, rfl, hmakes⟩ := makes_root hn hform
  obtain ⟨hkeys, hseat⟩ := Bool.and_eq_true_iff.mp hproperties
  obtain ⟨seat, hfind, hleaf⟩ := (Option.any_eq_true _ _).mp hseat
  exact ⟨.declare _ .empty, _, ps, fields, hn, hmakes, hfields, of_decide_eq_true hnames,
    of_decide_eq_true hkeys, eq_leaf_of_same hleaf ▸ hfind⟩

end Catalog

end TypeSchema
