import TypeSchema.Proofs.Compile.Registrations
import TypeSchema.Proofs.Descriptions
import TypeSchema.Proofs.MetaSchema
import TypeSchema.Proofs.Nesting
/-!
# Which documents are valid

The document of a type is a JSON Schema exactly when its descriptions are texts. Descriptions that
are found in types and at classes always are, so what matters are the descriptions of data members,
which may be any values (`Builds.stems`). A document is valid if texts describe the objects that are
made and their data members. The converse holds where no class has two data members of one name: a
member that another one replaces leaves no trace in the document (`jsonSchema_isSchema_iff`).
-/

namespace TypeSchema

open Json (IsTextual)

/-! ## Descriptions in documents -/

@[simp] theorem isTextual_none : IsTextual none := by simp [IsTextual]

/-- The texts that stand in for a missing description change nothing. -/
@[simp] theorem isTextual_orElse_string {d : Option Json} {s : Option String} :
    IsTextual (d <|> s.map .string) ↔ IsTextual d := by
  cases d <;> simp [IsTextual, Json.IsText]

namespace Node

variable {ids : String → Prop} {strict : Bool} {n : Node} {doc : Json}

/-- A node has its description in its document. -/
theorem member?_description_of_render (hn : Compiled ids n) (h : n.render strict = .ok doc) :
    doc.member? "description" = n.description := by
  have hfirst : ∀ (type : String) (d : Option Json) rest, "description" ∉ OrderedMap.keys rest →
      (Json.object ((("type", .string type) :: descriptionEntry d) ++ rest)).member? "description" =
        d := by
    intro type d rest hrest
    rw [← Compile.typed_eq]
    exact Json.member?_typed hrest
  cases hn with
  | leaf k d =>
      obtain rfl := Except.ok.inj h
      simpa [Node.description] using hfirst k.name d [] (by simp [OrderedMap.keys])
  | enum values d =>
      obtain rfl := Except.ok.inj h
      exact hfirst _ _ _ (by simp [OrderedMap.keys])
  | reference _ =>
      obtain rfl := Except.ok.inj h
      rfl
  | array items d definitions =>
      obtain ⟨body, rendered, -, -, rfl⟩ := render_array_iff.mp h
      rw [List.append_assoc]
      exact hfirst _ _ _ (by simp [OrderedMap.keys])
  | object ps required d definitions =>
      obtain ⟨body, rendered, -, -, rfl⟩ := render_object_iff.mp h
      simp only [List.append_assoc]
      exact hfirst _ _ _ (by simp [OrderedMap.keys])

/-- The descriptions in a document are those in the tree. -/
theorem described_iff (hn : ∀ m ∈ n.walk, Compiled ids m) (h : n.render strict = .ok doc) :
    doc.Described ↔ ∀ m ∈ n.walk, IsTextual m.description := by
  constructor
  · intro hdoc m hm
    obtain ⟨sub, hrender, hsub⟩ := hasSchema_of_walk hn h hm
    exact member?_description_of_render (hn m hm) hrender ▸ hdoc sub hsub
  · intro htree sub hsub
    obtain ⟨m, hm, hrender⟩ := walk_of_hasSchema hn h hsub
    exact (member?_description_of_render (hn m hm) hrender).symm ▸ htree m hm

end Node

namespace Catalog

variable {cat : Catalog} {t : TypeExpr} {given : Option Json}

/-- Text describes the object of a class, and every data member of it that is no object itself. -/
structure TextDescribes (cat : Catalog) (c : ClassRef) (d : Option Json) : Prop where
  object : IsTextual d
  member : ∀ {fields f}, cat.fieldsOf c = .ok fields → f ∈ fields →
    (∀ c' e, cat.form f.type f.description ≠ .ok (.object c' e)) → IsTextual f.description

/-- What a use of a type asks for is a text if what it was given is one. -/
theorem isTextual_descriptionOf : IsTextual (cat.descriptionOf t given) ↔ IsTextual given := by
  unfold descriptionOf
  split
  · rfl
  · dsimp only
    split
    · exact isTextual_orElse_string
    · split <;> simp only [isTextual_orElse_string]

/-- So the description of a form is a text if the given one is. -/
theorem isTextual_form {f : Form} (h : cat.form t given = .ok f) :
    IsTextual (f.description cat) ↔ IsTextual given := by
  rw [description_of_form h, isTextual_descriptionOf]

end Catalog

namespace Compile

variable {cat : Catalog} {L L' : Ledger TypeExpr} {room : Nat} {task : Task} {result : Result}
  {x y : Call} {c : ClassRef} {d : Option Json} {built : List (String × Node)}

@[simp] theorem isTextual_withFallback {t : TypeExpr} :
    IsTextual (withFallback cat d t) ↔ IsTextual d := isTextual_orElse_string

/-! ## Where descriptions come from -/

/-- How a task comes up on the way from a call for a type without a description. -/
inductive Stems (cat : Catalog) (x : Call) : Task → Prop
  /-- The type itself and the items of arrays are given no description. -/
  | bare (t) : Stems cat x (.type t none)
  | member {c d built fields f} : Makes cat x c d built → cat.fieldsOf c = .ok fields →
      f ∈ fields → Stems cat x (.type f.type f.description)
  | object {t given c d} : Stems cat x (.type t given) → cat.form t given = .ok (.object c d) →
      Stems cat x (.object c d)
  | members {c d built fields rest} : Makes cat x c d built → cat.fieldsOf c = .ok fields →
      rest ⊆ fields → Stems cat x (.members rest)

/-- Descriptions are given to the data members of objects that are made, and to nothing else. -/
theorem Builds.stems {t : TypeExpr} (h : Builds cat room .empty (.type t none) result L')
    (hy : Reached cat ⟨room, .empty, .type t none⟩ y) :
    Stems cat ⟨room, .empty, .type t none⟩ y.task := by
  induction hy with
  | refl => exact .bare t
  | tail hpath hcall ih =>
      cases hcall with
      | array _ => exact .bare _
      | object hform => exact .object ih hform
      | fresh hnew hfields =>
          obtain ⟨-, r, L₁, hmembers, -⟩ :=
            h.of_calls (hpath.tail (.fresh hnew hfields)) .empty
          obtain ⟨built, rfl⟩ : ∃ built, r = .members built := by
            cases hmembers <;> exact ⟨_, rfl⟩
          exact .members (.intro hpath hnew hfields hmembers) hfields (List.Subset.refl _)
      | head =>
          cases ih with
          | members hmade hfields hrest =>
              exact .member hmade hfields (hrest List.mem_cons_self)
      | tail _ =>
          cases ih with
          | members hmade hfields hrest =>
              exact .members hmade hfields fun f hf => hrest (List.mem_cons_of_mem _ hf)

section Root

variable {t : TypeExpr}

/-- Where text describes what is made, it describes everything that comes about. -/
theorem Builds.isTextual_of_arises (h : Builds cat room .empty (.type t none) result L')
    (hmade : ∀ c d built, Makes cat ⟨room, .empty, .type t none⟩ c d built →
      cat.TextDescribes c d) {n : Node} (hn : Arises cat ⟨room, .empty, .type t none⟩ n) :
    IsTextual n.description := by
  have hgiven : ∀ {room' L₁ t' given}, Reached cat ⟨room, .empty, .type t none⟩
      ⟨room', L₁, .type t' given⟩ → (∀ c e, cat.form t' given ≠ .ok (.object c e)) →
      IsTextual given := by
    intro room' L₁ t' given hpath hform
    have hstems := h.stems hpath
    cases hstems with
    | bare _ => exact isTextual_none
    | member hmakes hfields hf => exact (hmade _ _ _ hmakes).member hfields hf hform
  cases hn with
  | scalar hpath hform =>
      exact (Catalog.isTextual_form hform).mpr (hgiven hpath (by simp [hform]))
  | array _ hpath hform =>
      exact (Catalog.isTextual_form hform).mpr (hgiven hpath (by simp [hform]))
  | object hmakes => exact isTextual_withFallback.mpr (hmade _ _ _ hmakes).object
  | reference _ => exact isTextual_none

/-- If all data members of the classes that are made are described by texts, so are the objects. -/
theorem Builds.textDescribes (h : Builds cat room .empty (.type t none) result L')
    (hmembers : ∀ c d built fields, Makes cat ⟨room, .empty, .type t none⟩ c d built →
      cat.fieldsOf c = .ok fields → ∀ f ∈ fields, IsTextual f.description)
    (hmade : Makes cat ⟨room, .empty, .type t none⟩ c d built) : cat.TextDescribes c d := by
  refine ⟨?_, fun hfields hf _ => hmembers _ _ _ _ hmade hfields _ hf⟩
  obtain ⟨hpath, -, -, -⟩ := hmade
  have hstems := h.stems hpath
  cases hstems with
  | object hstems hform =>
      refine isTextual_withFallback.mp ((Catalog.isTextual_form hform).mpr ?_)
      cases hstems with
      | bare _ => exact isTextual_none
      | member hmakes hfields hf => exact hmembers _ _ _ _ hmakes hfields _ hf

end Root

/-! ## What is made is shown -/

/-- Where names are distinct, the tree of a call shows the trees of the calls that it makes. -/
theorem Calls.walk_subset (h : Calls cat x y) (hx : Builds cat x.room x.ledger x.task result L')
    (hL : Sound cat x.ledger) (hnames : DistinctNames cat L') :
    ∃ r L₁, Builds cat y.room y.ledger y.task r L₁ ∧ DistinctNames cat L₁ ∧
      r.walk ⊆ result.walk := by
  obtain ⟨hy, r, L₁, hbuilds, hretains⟩ := h.builds hx hL
  have hnames₁ : DistinctNames cat L₁ := fun t ht => hnames t (hretains.keys ht)
  -- The derivation of a call that is made is the part for it in the derivation of the call.
  refine ⟨r, L₁, hbuilds, hnames₁, fun m hm => ?_⟩
  cases h with
  | array hform =>
      obtain ⟨n, rfl, hitem⟩ := hx.of_array hform
      obtain ⟨rfl, -⟩ := hbuilds.unique hitem
      exact mem_walk_array_iff.mpr (.inr hm)
  | object hform =>
      obtain ⟨rfl, -⟩ := hbuilds.unique (hx.of_object hform)
      exact hm
  | fresh hnew hfields =>
      obtain ⟨_, built, _, hfields', hbuilt, rfl, rfl⟩ := hx.of_fresh hnew
      obtain rfl := Except.ok.inj (hfields.symm.trans hfields')
      obtain ⟨rfl, -⟩ := hbuilds.unique hbuilt
      obtain ⟨-, hkept⟩ := hbuilt.ofList_built hy hfields hnames
      obtain ⟨p, hp, hm⟩ := mem_walk_members_iff.mp hm
      exact mem_walk_objectNode_iff.mpr (.inr ⟨p, hkept.symm ▸ hp, hm⟩)
  | head =>
      cases hx with
      | cons hn _ =>
          obtain ⟨rfl, -⟩ := hbuilds.unique hn
          exact List.mem_append_left _ hm
  | tail hn =>
      cases hx with
      | cons hn' hbuilt =>
          obtain ⟨-, rfl⟩ := hn.unique hn'
          obtain ⟨rfl, -⟩ := hbuilds.unique hbuilt
          exact List.mem_append_right _ hm

/-- So it is for all calls on the way. -/
theorem Builds.walk_subset (h : Reached cat x y)
    (hx : Builds cat x.room x.ledger x.task result L') (hL : Sound cat x.ledger)
    (hnames : DistinctNames cat L') :
    Sound cat y.ledger ∧ ∃ r L₁, Builds cat y.room y.ledger y.task r L₁ ∧ DistinctNames cat L₁ ∧
      r.walk ⊆ result.walk := by
  induction h with
  | refl => exact ⟨hL, _, _, hx, hnames, List.Subset.refl _⟩
  | tail _ hcall ih =>
      obtain ⟨hy, r, L₁, hbuilds, hnames₁, hsubset⟩ := ih
      obtain ⟨r', L₂, hbuilds', hnames₂, hsubset'⟩ := hcall.walk_subset hbuilds hy hnames₁
      exact ⟨(hcall.builds hbuilds hy).1, r', L₂, hbuilds', hnames₂,
        List.Subset.trans hsubset' hsubset⟩

/-- The node of a use that is no object has the description that the use asks for. -/
theorem Builds.description_of_ne_object {t : TypeExpr} {given : Option Json} {m : Node}
    (h : Builds cat room L (.type t given) (.node m) L')
    (hform : ∀ c e, cat.form t given ≠ .ok (.object c e)) :
    m.description = cat.descriptionOf t given := by
  cases h with
  | scalar hscalar => exact Catalog.description_of_form hscalar
  | array harray _ => exact Catalog.description_of_form harray
  | object hobject _ => exact absurd hobject (hform _ _)

/-- Where names are distinct and all descriptions in the tree are texts, texts describe what is
made. -/
theorem Makes.textDescribes (h : Makes cat x c d built)
    (hx : Builds cat x.room x.ledger x.task result L') (hL : Sound cat x.ledger)
    (hnames : DistinctNames cat L') (htext : ∀ m ∈ result.walk, IsTextual m.description) :
    cat.TextDescribes c d := by
  obtain ⟨hpath, hnew, hfields, hbuilt⟩ := h
  obtain ⟨hL₀, r, L₁, hobject, hnames₁, hsubset⟩ := hx.walk_subset hpath hL hnames
  obtain ⟨rfl, rfl⟩ := hobject.unique (.fresh hnew hfields hbuilt)
  have hwalk : ∀ m ∈ (objectNode cat c d built).walk, IsTextual m.description :=
    fun m hm => htext m (hsubset hm)
  refine ⟨isTextual_withFallback.mp (hwalk _ (Node.mem_walk_self _)), ?_⟩
  intro fields' f hfields' hf hform
  obtain rfl := Except.ok.inj (hfields.symm.trans hfields')
  obtain ⟨hnodup, -⟩ := hbuilt.ofList_built (hL₀.opened hnew) hfields hnames₁
  obtain ⟨_, _, m, -, hm, hmem⟩ := hbuilt.member hf
    (List.count_eq_one_of_mem hnodup (List.mem_map_of_mem hf))
  have hm' := hwalk m (mem_walk_objectNode_iff.mpr (.inr ⟨_, hmem, Node.mem_walk_self m⟩))
  rwa [hm.description_of_ne_object hform, Catalog.isTextual_descriptionOf] at hm'

/-! ## Roots -/

section Root

variable {t : TypeExpr} {m : Node}

theorem Builds.description_rooted {given : Option Json}
    (h : Builds cat room .empty (.type t given) (.node m) L) :
    (rooted L m).description = m.description := by
  rcases h.rooted_cases with ⟨_, _, _, rfl, hroot, -⟩ | ⟨_, _, _, _, rfl, hroot, -⟩ |
    ⟨-, hroot, -⟩ <;> rw [hroot] <;> rfl

/-- Where text describes what is made, all descriptions in the tree of the root are texts. -/
theorem Builds.isTextual_rooted (h : Builds cat room .empty (.type t none) (.node m) L)
    (hmade : ∀ c d built, Makes cat ⟨room, .empty, .type t none⟩ c d built →
      cat.TextDescribes c d) : ∀ n ∈ (rooted L m).walk, IsTextual n.description := by
  obtain ⟨hself, hbelow⟩ := h.arises_rooted
  intro n hn
  rcases hbelow n hn with rfl | harises
  · rw [h.description_rooted]
    exact h.isTextual_of_arises hmade hself
  · exact h.isTextual_of_arises hmade harises

/-- Where names are distinct, it is so only then. -/
theorem Builds.textDescribes_of_rooted (h : Builds cat room .empty (.type t none) (.node m) L)
    (hnames : DistinctNames cat L) (htext : ∀ n ∈ (rooted L m).walk, IsTextual n.description)
    (hmade : Makes cat ⟨room, .empty, .type t none⟩ c d built) : cat.TextDescribes c d := by
  refine hmade.textDescribes h .empty hnames fun n hn => ?_
  rw [h.walk_rooted] at htext
  rcases List.mem_cons.mp hn with rfl | hn
  · exact h.description_rooted ▸ htext _ List.mem_cons_self
  · exact htext n (List.mem_cons_of_mem _ (List.mem_append_left _ hn))

end Root

end Compile

namespace Catalog

open Compile

variable {cat : Catalog} {strict : Bool} {limit : Int} {t : TypeExpr} {n : Node} {doc : Json}

/-- The classes of the objects that are made are reached. -/
theorem Makes.reaches {c : ClassRef} {d : Option Json} {ps : List (String × Node)}
    (h : cat.Makes limit t c d ps) (hn : cat.build limit t = .ok n) : Reaches cat t c := by
  obtain ⟨-, m, hm, -⟩ := build_builds hn
  obtain ⟨log, -, hrecords⟩ := hm.registers
  have hlog : c ∈ log := by
    refine (hrecords.visited_iff.mp ((mem_visited_iff_makes hn).mpr ⟨d, ps, h⟩)).resolve_left ?_
    exact fun hmem => absurd (mem_visited_iff.mp hmem) (by simp)
  obtain ⟨r, hr, hpath⟩ := hrecords.reached hlog
  exact ⟨r, hr, Relation.ReflTransGen.mono (fun _ _ hedge => hedge.1) _ _ hpath⟩

/-- A document is a JSON Schema exactly when its descriptions are texts. They are if texts describe
the data members of all classes that are reached, or just the objects that are made and their
members; where no class has two members of one name, they are in this case alone. -/
theorem jsonSchema_isSchema_iff (hcat : cat.Declared)
    (h : cat.jsonSchema strict limit t = .ok doc) :
    (doc.isSchema = true ↔ doc.Described) ∧
    ((∀ c, Reaches cat t c → ∀ fields, cat.fieldsOf c = .ok fields →
      ∀ f ∈ fields, IsTextual f.description) → doc.isSchema = true) ∧
    ((∀ c d ps, cat.Makes limit t c d ps → cat.TextDescribes c d) → doc.isSchema = true) ∧
    (DistinctNames cat (cat.visits limit t) → doc.isSchema = true →
      ∀ c d ps, cat.Makes limit t c d ps → cat.TextDescribes c d) := by
  obtain ⟨n, hn, -⟩ := bind_eq_ok_iff.mp h
  obtain ⟨doc', hdoc, hdoc', hgrammar⟩ := exists_document hcat.distinctMembers strict hn
  obtain rfl := Except.ok.inj (h.symm.trans hdoc')
  obtain ⟨-, m, hm, rfl⟩ := build_builds hn
  have hvalid := hgrammar.isSchema_iff
  have hnodes := hvalid.trans (Node.described_iff hm.compiled hdoc)
  have hmade : (∀ c d ps, cat.Makes limit t c d ps → cat.TextDescribes c d) →
      doc.isSchema = true := fun hmade =>
    hnodes.mpr (hm.isTextual_rooted fun c d built hmakes => hmade c d _ ⟨built, hmakes, rfl⟩)
  refine ⟨hvalid, fun hmembers => hmade ?_, hmade, ?_⟩
  · rintro c d _ ⟨built, hmakes, rfl⟩
    refine hm.textDescribes (fun c d built fields hmakes hfields => ?_) hmakes
    exact hmembers c (Makes.reaches ⟨built, hmakes, rfl⟩ hn) fields hfields
  · rintro hnames hschema c d _ ⟨built, hmakes, rfl⟩
    exact hm.textDescribes_of_rooted hnames (hnodes.mp hschema) hmakes

/-- The data members of chapters. -/
def chapterFields : List SchemaField :=
  [⟨"title", .builtin .str, some (.string "What it is called")⟩, ⟨"parts", chapterList, none⟩]

theorem fieldsOf_chapters {fields : List SchemaField}
    (h : chapters.fieldsOf (.declared 0) = .ok fields) : fields = chapterFields := by
  have heq : chapters.fieldsOf (.declared 0) = .ok chapterFields := by decide +kernel
  exact Except.ok.inj (h.symm.trans heq)

theorem reaches_chapterList {c : ClassRef} (h : Reaches chapters chapterList c) :
    c = .declared 0 := by
  have hlist : chapters.form chapterList none = .ok (.array (ClassRef.declared 0).toExpr none) :=
    rfl
  have hchapter : chapters.form (ClassRef.declared 0).toExpr none =
      .ok (.object (.declared 0) none) := rfl
  have htitle : chapters.form (.builtin .str) none = .ok (.scalar (.leaf .string none)) := rfl
  have hleads : ∀ {d}, Leads chapters chapterList d → d = .declared 0 :=
    fun h => (Leads.iff_of_object hchapter).mp ((Leads.iff_of_array hlist).mp h)
  refine h.of_closed (fun r => hleads) ?_
  rintro r d rfl ⟨fields, hfields, f, hf, hf'⟩
  obtain rfl := fieldsOf_chapters hfields
  simp only [chapterFields, List.mem_cons, List.not_mem_nil, or_false] at hf
  rcases hf with rfl | rfl
  · exact absurd hf' (Leads.not_of_scalar htitle)
  · exact hleads hf'

theorem jsonSchema_isSchema_iff_chapters :
    ∃ doc, chapters.jsonSchema true 8 chapterList = .ok doc ∧ doc.isSchema = true ∧
      doc.Described ∧ ∀ c d ps, chapters.Makes 8 chapterList c d ps → chapters.TextDescribes c d := by
  obtain ⟨n, hn, -⟩ : ∃ n, chapters.build 8 chapterList = .ok n ∧
      (n.definitions.length == 1) = true := exists_build (by decide +kernel)
  obtain ⟨doc, -, hdoc, -⟩ := exists_document declared_chapters.distinctMembers true hn
  obtain ⟨hvalid, hreached, -, honly⟩ := jsonSchema_isSchema_iff declared_chapters hdoc
  have hschema : doc.isSchema = true := by
    refine hreached fun c hc fields hfields f hf => ?_
    obtain rfl := reaches_chapterList hc
    obtain rfl := fieldsOf_chapters hfields
    simp only [chapterFields, List.mem_cons, List.not_mem_nil, or_false] at hf
    rcases hf with rfl | rfl
    · simp [IsTextual, Json.IsText]
    · exact isTextual_none
  exact ⟨doc, hdoc, hschema, hvalid.mp hschema, honly (by decide +kernel) hschema⟩

/-- A program that declares a class of points, with a data member that is described by a number. -/
def points : Catalog :=
  let declared := (empty.declare (.cls .plain (.ofName "Point" none) [])).2
  (declared.declare (.register (.name "Point") [.field "x" (.name "int") (some (.int 5))] false)).2

/-- What is written for the data member. -/
def coordinate : Json := .object [("type", .string "integer"), ("description", .int 5)]

/-- What is written for the class. -/
def pointDocument : Json :=
  .object [("type", .string "object"), ("properties", .object [("x", coordinate)]),
    ("required", .ofStrings ["x"]), ("additionalProperties", .bool false)]

/-- The number stands as a description in the document, which is no JSON Schema. -/
theorem jsonSchema_invalid : points.Declared ∧
    points.jsonSchema true 8 (ClassRef.declared 0).toExpr = .ok pointDocument ∧
    pointDocument.isSchema = false := by
  have hdeclared : points.Declared := .declare _ (.declare _ .empty)
  have hdoc : points.jsonSchema true 8 (ClassRef.declared 0).toExpr = .ok pointDocument := rfl
  obtain ⟨n, hn, -⟩ := bind_eq_ok_iff.mp hdoc
  obtain ⟨doc, -, hdoc', hgrammar⟩ := exists_document hdeclared.distinctMembers true hn
  obtain rfl := Except.ok.inj (hdoc.symm.trans hdoc')
  refine ⟨hdeclared, hdoc, Bool.eq_false_iff.mpr fun hschema => ?_⟩
  have hmember : pointDocument.HasSchema coordinate :=
    .single (.property (List.mem_cons_of_mem _ List.mem_cons_self) List.mem_cons_self)
  obtain ⟨s, hs⟩ := hgrammar.isSchema_iff.mp hschema coordinate hmember (.int 5) rfl
  exact absurd hs (by simp)

end Catalog

end TypeSchema
