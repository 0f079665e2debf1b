import TypeSchema.Proofs.Compile.Soundness
import TypeSchema.Proofs.Positions
/-!
# Roots

The root of a compilation is the node of its type with the definitions of the ledger. Together
with `Catalog.build_builds`, the lemmas say what the root consists of: its definitions are those of
the ledger (`Builds.definitions_rooted`), and its parts are those of the node and the definitions
(`Builds.children_rooted`).
-/

namespace TypeSchema

namespace Compile

variable {cat : Catalog} {L : Ledger TypeExpr} {room : Nat} {t : TypeExpr} {given : Option Json}
  {m : Node}

theorem rooted_array (L : Ledger TypeExpr) (items : Node) (d : Option Json) :
    ∃ ds, rooted L (.array items d none) = .array items d ds ∧
      Node.definitionList ds = L.definitions := by
  unfold rooted
  split
  · next hnone => exact ⟨none, rfl, hnone.symm⟩
  · exact ⟨some L.definitions, rfl, rfl⟩

theorem rooted_object (L : Ledger TypeExpr) (ps : List (String × Node))
    (required : Option (List String)) (d : Option Json) :
    ∃ ds, rooted L (.object ps required d none) = .object ps required d ds ∧
      Node.definitionList ds = L.definitions := by
  unfold rooted
  split
  · next hnone => exact ⟨none, rfl, hnone.symm⟩
  · exact ⟨some L.definitions, rfl, rfl⟩

/-- The root is an array or an object that holds the definitions, or there are none. -/
theorem Builds.rooted_cases (h : Builds cat room .empty (.type t given) (.node m) L) :
    (∃ items d ds, m = .array items d none ∧ rooted L m = .array items d ds ∧
      Node.definitionList ds = L.definitions) ∨
    (∃ ps required d ds, m = .object ps required d none ∧ rooted L m = .object ps required d ds ∧
      Node.definitionList ds = L.definitions) ∨
    (L.definitions = [] ∧ rooted L m = m ∧
      ((∃ k d, m = .leaf k d) ∨ ∃ values d, m = .enum values d)) := by
  cases h with
  | scalar hform => exact .inr (.inr ⟨rfl, rfl, Catalog.scalar_of_form hform⟩)
  | array _ _ =>
      obtain ⟨ds, hroot, hds⟩ := rooted_array L _ _
      exact .inl ⟨_, _, ds, rfl, hroot, hds⟩
  | object _ hobject =>
      cases hobject with
      | placeholder _ he _ => exact absurd he (by simp)
      | reuse _ he _ => exact absurd he (by simp)
      | fresh _ _ _ =>
          obtain ⟨ds, hroot, hds⟩ := rooted_object _ _ _ _
          exact .inr (.inl ⟨_, _, _, ds, rfl, hroot, hds⟩)

/-- The node of a root is no reference. -/
theorem Builds.ne_reference (h : Builds cat room .empty (.type t given) (.node m) L)
    (id : Option String) : m ≠ .reference id := by
  rcases h.rooted_cases with ⟨items, d, ds, rfl, -⟩ | ⟨ps, required, d, ds, rfl, -⟩ |
    ⟨-, -, ⟨k, d, rfl⟩ | ⟨values, d, rfl⟩⟩ <;> simp

/-- Where there are definitions, the node at the root can take them. -/
theorem Builds.takes_definitions (h : Builds cat room .empty (.type t given) (.node m) L) :
    L.definitions = [] ∨ (m.withDefinitions? (some L.definitions)).isSome := by
  rcases h.rooted_cases with ⟨items, d, ds, rfl, -⟩ | ⟨ps, required, d, ds, rfl, -⟩ | ⟨hnone, -⟩
  · exact .inr rfl
  · exact .inr rfl
  · exact .inl hnone

/-- An object at the root is the object it is made of, with definitions. -/
theorem Builds.of_rooted_object (h : Builds cat room .empty (.type t given) (.node m) L)
    {ps : List (String × Node)} {required : Option (List String)} {d : Option Json}
    {ds : Option (List (String × Node))} (hroot : .object ps required d ds = rooted L m) :
    m = .object ps required d none := by
  rcases h.rooted_cases with ⟨_, _, _, -, hrooted, -⟩ | ⟨_, _, _, _, hobject, hrooted, -⟩ |
    ⟨-, hrooted, ⟨_, _, rfl⟩ | ⟨_, _, rfl⟩⟩
  · exact absurd (hroot.trans hrooted) (by simp)
  · obtain ⟨rfl, rfl, rfl, -⟩ := Node.object.inj (hroot.trans hrooted)
    exact hobject
  · exact absurd (hroot.trans hrooted) (by simp)
  · exact absurd (hroot.trans hrooted) (by simp)

/-- The root holds the definitions of the ledger, none counting as an empty map. -/
theorem Builds.definitions_rooted (h : Builds cat room .empty (.type t given) (.node m) L) :
    (rooted L m).definitions = L.definitions := by
  rcases h.rooted_cases with ⟨items, d, ds, -, hroot, hds⟩ | ⟨ps, required, d, ds, -, hroot, hds⟩ |
    ⟨hnone, hroot, ⟨k, d, rfl⟩ | ⟨values, d, rfl⟩⟩
  · rw [hroot, Node.definitions, hds]
  · rw [hroot, Node.definitions, hds]
  · rw [hroot, hnone]
    rfl
  · rw [hroot, hnone]
    rfl

/-- The parts of the root are those of the node and the definitions. -/
theorem Builds.children_rooted (h : Builds cat room .empty (.type t given) (.node m) L) :
    (rooted L m).children = m.children ++ L.definitions.map Prod.snd := by
  rcases h.rooted_cases with ⟨items, d, ds, rfl, hroot, hds⟩ |
    ⟨ps, required, d, ds, rfl, hroot, hds⟩ | ⟨hnone, hroot, -⟩
  · rw [hroot, Node.children, hds]
    rfl
  · rw [hroot, Node.children, hds]
    simp [Node.children, Node.definitionList]
  · rw [hroot, hnone, List.map_nil, List.append_nil]

/-- The root is of a kind that the compiler makes. -/
theorem Builds.compiled_rooted (h : Builds cat room .empty (.type t given) (.node m) L)
    (ids : String → Prop) : Node.Compiled ids (rooted L m) := by
  rcases h.rooted_cases with ⟨items, d, ds, -, hroot, -⟩ | ⟨ps, required, d, ds, -, hroot, -⟩ |
    ⟨-, hroot, ⟨k, d, rfl⟩ | ⟨values, d, rfl⟩⟩
  · rw [hroot]
    exact .array _ _ _
  · rw [hroot]
    exact .object _ _ _ _
  · rw [hroot]
    exact .leaf _ _
  · rw [hroot]
    exact .enum _ _

end Compile

/-! ## Small programs -/

/-- The class of the `i`-th statement. -/
def ClassRef.declared (i : Nat) : ClassRef := ⟨.declared i, []⟩

namespace Catalog

/-- An object class is compiled to its object. -/
theorem form_declared {cat : Catalog} {i : Nat} {given : Option Json}
    (h : cat.kindOf (.declared i) = .object) :
    cat.form (ClassRef.declared i).toExpr given = .ok (.object (.declared i) given) := by
  have hunwrap : (ClassRef.declared i).toExpr.unwrap = .ok ((ClassRef.declared i).toExpr, none) := by
    simp [ClassRef.declared, ClassRef.toExpr, TypeExpr.unwrap, TypeExpr.builtin]
  refine form_eq_ok_iff.mpr ⟨_, none, .declared i, hunwrap, rfl, ?_⟩
  rw [formOf, h]
  simp

/-- What is known of a plain class. -/
def plainInfo (i : Nat) (name : String) : ClassInfo :=
  { builtinInfo .object with
    name, qualname := name, module := some mainModule, home := mainModule
    bases := [.builtin .object], mro := [.declared i, .builtin .object] }

/-- A program of plain classes, for each of which a field list is registered. -/
def ofFields (program : List (String × List SchemaField)) : Catalog :=
  { empty with
    classes := program.zipIdx.map fun (c, i) => plainInfo i c.1
    registered := program.zipIdx.map fun (c, i) => (.declared i, c.2) }

/-- Households and their members refer to each other and to themselves, below arrays and as
optional members. -/
def households : Catalog :=
  .ofFields
    [("Household",
      [⟨"parts", .subscript (.direct (.builtin .list)) [(ClassRef.declared 0).toExpr], none⟩,
       ⟨"owner", (ClassRef.declared 1).toExpr, some (.string "Who pays")⟩]),
     ("Person",
      [⟨"name", .builtin .str, none⟩,
       ⟨"home", (ClassRef.declared 0).toExpr, none⟩,
       ⟨"partner", .union .bars [(ClassRef.declared 1).toExpr, .noneType], none⟩])]

/-- What is computed of a root holds of a root. -/
theorem exists_build {cat : Catalog} {limit : Int} {t : TypeExpr} {p : Node → Bool}
    (h : (cat.build limit t).toOption.any p = true) :
    ∃ n, cat.build limit t = .ok n ∧ p n = true := by
  cases hbuild : cat.build limit t with
  | error e => exact absurd (hbuild ▸ h) (by simp [Except.toOption])
  | ok n => exact ⟨n, rfl, by simpa [hbuild, Except.toOption] using h⟩

theorem exists_build_households :
    ∃ n, households.build 8 (ClassRef.declared 0).toExpr = .ok n ∧ n.definitions.length = 2 := by
  obtain ⟨n, hn, hlength⟩ : ∃ n, households.build 8 (ClassRef.declared 0).toExpr = .ok n ∧
      (n.definitions.length == 2) = true := exists_build (by decide +kernel)
  exact ⟨n, hn, beq_iff_eq.mp hlength⟩

end Catalog

end TypeSchema
