import TypeSchema.Document
import TypeSchema.Proofs.Declaration.Members
import TypeSchema.Proofs.References
/-!
# The grammar of documents

The documents of compiled types belong to a small part of JSON Schema, which `Json.IsSchema` and
`Json.IsDocument` spell out: which entries there are, and in which order. `IsSchema` is about what
stands anywhere in a document, `IsDocument` about the whole, which alone may hold definitions.

That the names in an enumeration are pairwise different is owed to how enumerations are declared, so
the main statement (`jsonSchema_isDocument`) is about the catalogs that a program can make.
-/

namespace TypeSchema

/-! ## The grammar -/

namespace Json

/-- The entries that come first in every schema that is no reference. -/
def typed (type : String) (description : Option Json) : List (String × Json) :=
  ("type", .string type) :: (description.map fun value => ("description", value)).toList

/-- The schemas of a mode. -/
inductive IsSchema (strict : Bool) : Json → Prop
  | primitive {type} (description) : type ∈ ["string", "integer", "number", "boolean"] →
      IsSchema strict (.object (typed type description))
  | enumeration {names} (description) : names.Nodup →
      IsSchema strict (.object (typed "string" description ++ [("enum", .ofStrings names)]))
  | array {items} (description) : IsSchema strict items →
      IsSchema strict (.object (typed "array" description ++ [("items", items)]))
  /-- All properties are required, in their order. -/
  | object {properties} (description) : (∀ p ∈ properties, IsSchema strict p.2) →
      (OrderedMap.keys properties).Nodup →
      IsSchema strict (.object (typed "object" description ++
        [("properties", .object properties),
         ("required", .ofStrings (OrderedMap.keys properties))] ++
        if strict then [("additionalProperties", .bool false)] else []))
  | reference (id) : IsSchema strict (.object [("$ref", .string ("#/$defs/" ++ id))])

/-- The documents of a mode: schemas that are no references, which may have definitions besides. -/
inductive IsDocument (strict : Bool) : Json → Prop
  | plain {members} : IsSchema strict (.object members) → "$ref" ∉ OrderedMap.keys members →
      IsDocument strict (.object members)
  | recursive {members definitions} : IsSchema strict (.object members) →
      "$ref" ∉ OrderedMap.keys members → definitions ≠ [] →
      (∀ p ∈ definitions, IsSchema strict p.2 ∧ p.2.member? "type" = some (.string "object")) →
      IsDocument strict (.object (members ++ [("$defs", .object definitions)]))

variable {strict : Bool} {doc v : Json}

@[simp] theorem mem_typed {type : String} {description : Option Json} {p : String × Json} :
    p ∈ typed type description ↔ p = ("type", .string type) ∨
      ∃ value, description = some value ∧ p = ("description", value) := by
  cases description <;> simp [typed]

theorem IsSchema.of_part (h : IsSchema strict doc) (hpart : doc.Part v) : IsSchema strict v := by
  cases h with
  | primitive _ _ => cases hpart <;> simp_all
  | enumeration _ _ => cases hpart <;> simp_all
  | reference _ => cases hpart <;> simp_all
  | @array items _ hitems =>
      cases hpart with
      | items hmem =>
          obtain rfl : v = items := by simpa using hmem
          exact hitems
      | property hmem _ => simp at hmem
      | definition hmem _ => simp at hmem
      | alternative hmem _ => simp at hmem
  | @object properties _ hproperties _ =>
      cases hpart with
      | @property _ ps _ _ hmem hv =>
          obtain rfl : ps = properties := by simpa using hmem
          exact hproperties _ hv
      | items hmem => simp at hmem
      | definition hmem _ => simp at hmem
      | alternative hmem _ => simp at hmem

/-- No schema is empty, and none has alternatives. -/
theorem IsSchema.nonempty_without_anyOf (h : IsSchema strict doc) :
    doc ≠ .object [] ∧ doc.member? "anyOf" = none := by
  cases h with
  | reference _ => exact ⟨by simp, rfl⟩
  | primitive _ _ | enumeration _ _ | array _ _ | object _ _ _ =>
      refine ⟨by simp [typed], OrderedMap.find?_eq_none_iff.mpr ?_⟩
      simp [OrderedMap.keys]

theorem IsDocument.of_part (h : IsDocument strict doc) (hpart : doc.Part v) :
    IsSchema strict v := by
  cases h with
  | plain hschema _ => exact hschema.of_part hpart
  | recursive hschema _ _ hdefinitions =>
      cases hpart with
      | items hmem => exact hschema.of_part (.items (by simpa using hmem))
      | property hmem hv => exact hschema.of_part (.property (by simpa using hmem) hv)
      | alternative hmem hv => exact hschema.of_part (.alternative (by simpa using hmem) hv)
      | definition hmem hv =>
          rcases List.mem_append.mp hmem with hmem | hmem
          · exact hschema.of_part (.definition hmem hv)
          · obtain rfl := Json.object.inj (Prod.mk.inj (List.mem_singleton.mp hmem)).2
            exact (hdefinitions _ hv).1

/-- What stands at a schema position of a document, the document itself apart, is a schema. -/
theorem IsDocument.of_hasSchema (h : IsDocument strict doc) (hv : doc.HasSchema v) :
    v = doc ∨ IsSchema strict v := by
  induction hv with
  | refl => exact .inl rfl
  | tail _ hpart ih =>
      rcases ih with rfl | hschema
      · exact .inr (h.of_part hpart)
      · exact .inr (hschema.of_part hpart)

theorem IsDocument.nonempty_without_anyOf (h : IsDocument strict doc) :
    doc ≠ .object [] ∧ doc.member? "anyOf" = none := by
  cases h with
  | plain hschema _ => exact hschema.nonempty_without_anyOf
  | recursive hschema _ _ _ =>
      refine ⟨by simp, ?_⟩
      rw [member?, OrderedMap.find?_append]
      have hmember := hschema.nonempty_without_anyOf.2
      rw [member?] at hmember
      rw [hmember]
      rfl

end Json

/-! ## Compiled nodes -/

/-- The values of an enumeration are the names of the members of some class. -/
theorem Catalog.enum_of_form {cat : Catalog} {t : TypeExpr} {given d : Option Json}
    {values : List String} (h : cat.form t given = .ok (.scalar (.enum values d))) :
    ∃ c, values = cat.memberNames c := by
  obtain ⟨core, found, c, -, -, hform⟩ := form_eq_ok_iff.mp h
  refine ⟨c, ?_⟩
  unfold formOf at hform
  cases hkind : cat.kindOf c <;> rw [hkind] at hform <;> dsimp only at hform
  case enumeration => exact (Node.enum.inj (Form.scalar.inj (Except.ok.inj hform))).1.symm
  case fixedArray | collection =>
    obtain ⟨item, -, hitem⟩ := ofItem_eq_ok hform
    exact absurd hitem (by simp)
  all_goals simp at hform

namespace Compile

open Json (IsSchema IsDocument)

variable {cat : Catalog} {S : ClassRef → Prop} {task : Task} {result : Result}
  {L : Ledger TypeExpr} {room : Nat} {strict : Bool}

theorem typed_eq (type : String) (d : Option Json) :
    Json.typed type d = ("type", .string type) :: Node.descriptionEntry d := by
  cases d <;> rfl

/-- Every node of a result is written as a schema. -/
def Result.Grammatical (strict : Bool) : Result → Prop
  | .node n => ∃ doc, n.render strict = .ok doc ∧ IsSchema strict doc
  | .members built => ∀ p ∈ built, ∃ doc, p.2.render strict = .ok doc ∧ IsSchema strict doc

theorem isSchema_leaf (k : LeafKind) (d : Option Json) :
    IsSchema strict (.object (Json.typed k.name d)) :=
  .primitive d (by cases k <;> simp [LeafKind.name])

/-- What every value of a map is written as, the written map consists of. -/
theorem exists_values {P : Json → Prop} {ps : List (String × Node)}
    (h : ∀ p ∈ ps, ∃ doc, p.2.render strict = .ok doc ∧ P doc) :
    ∃ body, Node.renderValues strict ps = .ok body ∧ ∀ p ∈ body, P p.2 := by
  obtain ⟨body, hbody⟩ := Node.exists_renderValues fun p hp => (h p hp).imp fun _ hdoc => hdoc.1
  refine ⟨body, hbody, fun p hp => ?_⟩
  obtain ⟨n, hn, hrender⟩ := Node.mem_of_renderValues hbody hp
  obtain ⟨doc, hdoc, hP⟩ := h _ hn
  obtain rfl := Except.ok.inj (hrender.symm.trans hdoc)
  exact hP

theorem grammatical_objectNode {c : ClassRef} {d : Option Json} {built : List (String × Node)}
    (h : (Result.members built).Grammatical strict) :
    (Result.node (objectNode cat c d built)).Grammatical strict := by
  obtain ⟨body, hbody, hschemas⟩ :=
    exists_values fun p hp => h p (OrderedMap.mem_of_mem_ofList hp)
  have hkeys := Node.keys_renderValues hbody
  refine ⟨_, Node.render_object_iff.mpr ⟨body, [], hbody, rfl, rfl⟩, ?_⟩
  have hnodup : (OrderedMap.keys body).Nodup := hkeys ▸ OrderedMap.nodup_keys_ofList built
  have hobject := IsSchema.object (withFallback cat d c.toExpr) hschemas hnodup
  rw [hkeys, typed_eq] at hobject
  cases strict
  all_goals simpa [Node.requiredEntry, Node.closedEntry, Node.definitionsEntry, OrderedMap.keys]
    using hobject

/-- What represents a type is written as a schema. -/
theorem Represents.grammatical (hcat : cat.DistinctMembers)
    (h : Represents cat S task result) : result.Grammatical strict := by
  induction h with
  | scalar hform =>
      rcases Catalog.scalar_of_form hform with ⟨k, d, rfl⟩ | ⟨values, d, rfl⟩
      · exact ⟨_, rfl, typed_eq k.name d ▸ isSchema_leaf k d⟩
      · obtain ⟨c, rfl⟩ := Catalog.enum_of_form hform
        exact ⟨_, rfl, typed_eq "string" d ▸ .enumeration d (hcat.nodup_info c.id)⟩
  | array _ _ ih =>
      obtain ⟨body, hbody, hschema⟩ := ih
      refine ⟨_, Node.render_array_iff.mpr ⟨body, [], hbody, rfl, rfl⟩, ?_⟩
      rw [← typed_eq]
      simpa [Node.definitionsEntry] using IsSchema.array _ hschema
  | object _ _ ih => exact ih
  | reference _ => exact ⟨_, rfl, .reference _⟩
  | inline _ _ ih => exact grammatical_objectNode ih
  | nil => exact fun _ hp => absurd hp List.not_mem_nil
  | cons _ _ ihn ihs =>
      intro p hp
      rcases List.mem_cons.mp hp with rfl | hp
      · exact ihn
      · exact ihs p hp

/-- Definitions are written as schemas of objects. -/
theorem Complete.exists_definitions (hcat : cat.DistinctMembers) (h : Complete cat L) :
    ∃ rendered, Node.renderValues strict L.definitions = .ok rendered ∧
      ∀ p ∈ rendered, IsSchema strict p.2 ∧ p.2.member? "type" = some (.string "object") := by
  refine @exists_values _ (fun doc =>
    IsSchema strict doc ∧ doc.member? "type" = some (.string "object")) _ fun p hp => ?_
  obtain ⟨c, d, built, hnode, hobject⟩ := h.represents_of_mem hp
  obtain ⟨doc, hdoc, hschema⟩ := hobject.grammatical hcat
  refine ⟨doc, hdoc, hschema, ?_⟩
  obtain ⟨body, rendered, -, -, rfl⟩ := Node.render_object_iff.mp (hnode ▸ hdoc)
  rfl

variable {t : TypeExpr} {given : Option Json} {m : Node}

/-- The document of a root is that of its node, with the definitions last. -/
theorem Builds.render_rooted (h : Builds cat room .empty (.type t given) (.node m) L)
    {members rendered : List (String × Json)} (hm : m.render strict = .ok (.object members))
    (hrendered : Node.renderValues strict L.definitions = .ok rendered) :
    (rooted L m).render strict = .ok (.object (members ++ Node.definitionsEntry rendered)) := by
  rcases h.rooted_cases with ⟨items, d, ds, rfl, hroot, hds⟩ |
    ⟨ps, required, d, ds, rfl, hroot, hds⟩ | ⟨hnone, hroot, -⟩
  · obtain ⟨body, none, hbody, hnone, hmembers⟩ := Node.render_array_iff.mp hm
    obtain rfl := Except.ok.inj hnone
    obtain rfl := Json.object.inj hmembers
    rw [hroot, Node.render_array_iff]
    exact ⟨body, rendered, hbody, hds ▸ hrendered, by simp [Node.definitionsEntry]⟩
  · obtain ⟨body, none, hbody, hnone, hmembers⟩ := Node.render_object_iff.mp hm
    obtain rfl := Except.ok.inj hnone
    obtain rfl := Json.object.inj hmembers
    rw [hroot, Node.render_object_iff]
    exact ⟨body, rendered, hbody, hds ▸ hrendered, by simp [Node.definitionsEntry]⟩
  · rw [hnone] at hrendered
    obtain rfl := Except.ok.inj hrendered
    rw [hroot, hm, Node.definitionsEntry, List.append_nil]

/-- The root of a compilation is written as a document of the grammar. -/
theorem Builds.isDocument (hcat : cat.DistinctMembers)
    (h : Builds cat room .empty (.type t given) (.node m) L) :
    ∃ doc, (rooted L m).render strict = .ok doc ∧ IsDocument strict doc := by
  obtain ⟨-, -, hrepresents⟩ := h.sound .empty
  obtain ⟨doc, hdoc, hschema⟩ := hrepresents.grammatical hcat
  obtain ⟨members, rfl⟩ : ∃ members, doc = .object members := by
    cases hschema <;> exact ⟨_, rfl⟩
  have href : "$ref" ∉ OrderedMap.keys members := by
    intro hkey
    obtain ⟨⟨_, v⟩, hv, rfl⟩ := List.mem_map.mp hkey
    have hm := hrepresents.compiled m (Node.mem_walk_self m)
    obtain ⟨id, heq, -⟩ := Node.eq_reference_of_render hm hdoc hv
    exact h.ne_reference _ heq
  obtain ⟨rendered, hrendered, hdefinitions⟩ := h.complete.exists_definitions hcat
  refine ⟨_, h.render_rooted hdoc hrendered, ?_⟩
  cases rendered with
  | nil => exact (List.append_nil members).symm ▸ .plain hschema href
  | cons p rest => exact .recursive hschema href (List.cons_ne_nil p rest) hdefinitions

end Compile

/-! ## Compiled documents -/

namespace Catalog

open Json (IsSchema IsDocument)

/-- A type that compiles has a document of the grammar. -/
theorem exists_document {cat : Catalog} (hcat : cat.DistinctMembers) (strict : Bool) {limit : Int}
    {t : TypeExpr} {n : Node} (h : cat.build limit t = .ok n) : ∃ doc, n.render strict = .ok doc ∧
      cat.jsonSchema strict limit t = .ok doc ∧ IsDocument strict doc := by
  obtain ⟨-, m, hm, rfl⟩ := build_builds h
  obtain ⟨doc, hdoc, hgrammar⟩ := hm.isDocument hcat
  refine ⟨doc, hdoc, ?_, hgrammar⟩
  rw [jsonSchema, h]
  exact congrArg (Except.mapError SchemaError.unknownKind) hdoc

/-- In the catalogs that a program can make, every type that has a document has one of the grammar,
in which no schema is empty and none has alternatives. A type that compiles has a document, and
where its classes are recursive the node at its root can take their definitions. -/
theorem jsonSchema_isDocument {cat : Catalog} (hcat : cat.Declared) (strict : Bool) (limit : Int)
    (t : TypeExpr) :
    (∀ doc, cat.jsonSchema strict limit t = .ok doc → IsDocument strict doc ∧
      ∀ sub, doc.HasSchema sub → sub ≠ .object [] ∧ sub.member? "anyOf" = none) ∧
    (∀ n, cat.build limit t = .ok n →
      ∃ doc, n.render strict = .ok doc ∧ cat.jsonSchema strict limit t = .ok doc) ∧
    ∀ m L, Compile.Yields (Compile.elementAt cat limit 0 t none .root) .empty m L →
      L.definitions = [] ∨ (m.withDefinitions? (some L.definitions)).isSome := by
  refine ⟨fun doc h => ?_, fun n h => ?_, fun m L h => ?_⟩
  · obtain ⟨n, hn, -⟩ := bind_eq_ok_iff.mp h
    obtain ⟨doc', -, hdoc', hgrammar⟩ := exists_document hcat.distinctMembers strict hn
    obtain rfl := Except.ok.inj (h.symm.trans hdoc')
    refine ⟨hgrammar, fun sub hsub => ?_⟩
    rcases hgrammar.of_hasSchema hsub with rfl | hschema
    · exact hgrammar.nonempty_without_anyOf
    · exact hschema.nonempty_without_anyOf
  · obtain ⟨doc, hdoc, hjson, -⟩ := exists_document hcat.distinctMembers strict h
    exact ⟨doc, hdoc, hjson⟩
  · exact (Compile.element_yields h).takes_definitions

/-- A program that declares a class of chapters, which have chapters as parts. -/
def chapters : Catalog :=
  let head : ClassHead :=
    { name := "Chapter", module := none, fields := [], bases := [], params := [], deferred := false
      description := none, registered := none, newModule := none, newQualname := none }
  let parts : Expression := .subscript (.name "list") [.name "Chapter"]
  let rows : List (FieldRow Expression) :=
    [.field "title" (.name "str") (some (.string "What it is called")), .field "parts" parts none]
  let declared := (empty.declare (.cls .plain head [])).2
  (declared.declare (.register (.name "Chapter") rows false)).2

theorem declared_chapters : chapters.Declared := .declare _ (.declare _ .empty)

/-- Lists of chapters. -/
def chapterList : TypeExpr :=
  .subscript (.direct (.builtin .list)) [(ClassRef.declared 0).toExpr]

theorem jsonSchema_isDocument_chapters :
    (∃ doc, chapters.jsonSchema true 8 chapterList = .ok doc ∧ IsDocument true doc ∧
      doc ≠ .object []) ∧
    ∃ m L, Compile.Yields (Compile.elementAt chapters 8 0 chapterList none .root) .empty m L ∧
      L.definitions.length = 1 ∧ (m.withDefinitions? (some L.definitions)).isSome := by
  obtain ⟨hgrammar, hrender, hattach⟩ :=
    jsonSchema_isDocument declared_chapters true 8 chapterList
  constructor
  · obtain ⟨n, hn, -⟩ : ∃ n, chapters.build 8 chapterList = .ok n ∧
        (n.definitions.length == 1) = true := exists_build (by decide +kernel)
    obtain ⟨doc, -, hdoc⟩ := hrender n hn
    obtain ⟨hdocument, hparts⟩ := hgrammar doc hdoc
    exact ⟨doc, hdoc, hdocument, (hparts doc .refl).1⟩
  · let step := Compile.elementAt chapters 8 0 chapterList none .root
    have hrun : ((Compile.outcome step .empty).map Except.isOk fun L => L.definitions.length) =
        (true, 1) := by decide +kernel
    rcases houtcome : Compile.outcome step .empty with ⟨e | m, L⟩ <;> rw [houtcome] at hrun
    · exact absurd (Prod.mk.inj hrun).1 (by simp [Except.isOk, Except.toBool])
    · have hlength : L.definitions.length = 1 := (Prod.mk.inj hrun).2
      refine ⟨m, L, houtcome, hlength, (hattach m L houtcome).resolve_left fun hnone => ?_⟩
      exact absurd hlength (by simp [hnone])

end Catalog

end TypeSchema
