import TypeSchema.Json.MetaSchema
import TypeSchema.Proofs.Grammar
/-!
# The documents of the grammar as JSON Schemas

Nothing but a description can keep a document of the grammar from being a JSON Schema. One layer of a
document is without fault exactly when its description is a text and the schemas in it are without
fault (`IsSchema.schemaFaults_iff_parts`); so a whole document is a JSON Schema exactly when all
descriptions at its schema positions are texts (`IsDocument.isSchema_iff`).
-/

namespace TypeSchema.Json

/-- The value is a text. -/
def IsText (v : Json) : Prop := ∃ s, v = .string s

/-- A description is missing, or it is a text. -/
def IsTextual (d : Option Json) : Prop := ∀ v, d = some v → v.IsText

/-- The descriptions at the schema positions are texts. -/
def Described (doc : Json) : Prop :=
  ∀ sub, doc.HasSchema sub → IsTextual (sub.member? "description")

/-- The description of a layer is a text, and so are those in the schemas below. -/
theorem described_iff {doc : Json} : doc.Described ↔
    IsTextual (doc.member? "description") ∧ ∀ v, doc.Part v → v.Described := by
  constructor
  · exact fun h => ⟨h doc .refl, fun v hv sub hsub => h sub (.head hv hsub)⟩
  · rintro ⟨hself, hparts⟩ sub hsub
    rcases hsub.cases_head with rfl | ⟨v, hv, hrest⟩
    · exact hself
    · exact hparts v hv sub hrest

/-! ## Faults of objects -/

attribute [local simp] shapeFaults hasPlainShape

theorem lookup_pair_cons {α : Type} (key k : String) (v : α) (entries : List (String × α)) :
    ((k, v) :: entries).lookup key = if key = k then some v else entries.lookup key := by
  rw [List.lookup_cons]
  by_cases hkey : key = k
  · simp [hkey]
  · simp [hkey, beq_false_of_ne hkey]

theorem lookup_eq_find? {α : Type} (key : String) (members : List (String × α)) :
    members.lookup key = OrderedMap.find? key members := by
  induction members with
  | nil => rfl
  | cons p rest ih =>
      obtain ⟨k, v⟩ := p
      rw [lookup_pair_cons, ih]
      by_cases h : key = k
      · simp [OrderedMap.find?, h]
      · simp [OrderedMap.find?, h, Ne.symm h]

theorem lookup_memberFaults (key : String) (members : List (String × Json)) :
    (memberFaults members).lookup key =
      (members.lookup key).map (shapeFaults (shapeOf key)) := by
  induction members with
  | nil => simp [memberFaults]
  | cons p rest ih =>
      obtain ⟨k, v⟩ := p
      rw [memberFaults, lookup_pair_cons, lookup_pair_cons, ih]
      by_cases h : key = k
      · simp [h]
      · simp [h]

/-- An object is without fault exactly when its values have the shapes of their keywords. -/
theorem schemaFaults_object_iff {members : List (String × Json)}
    (hnodup : (OrderedMap.keys members).Nodup) :
    schemaFaults (.object members) = [] ↔ ∀ p ∈ members, shapeFaults (shapeOf p.1) p.2 = [] := by
  have hkeyword : ∀ keyword, ((memberFaults members).lookup keyword).getD [] = [] ↔
      ∀ v, (keyword, v) ∈ members → shapeFaults (shapeOf keyword) v = [] := by
    intro keyword
    rw [lookup_memberFaults, lookup_eq_find?]
    cases hfind : OrderedMap.find? keyword members with
    | none =>
        have hnot := OrderedMap.find?_eq_none_iff.mp hfind
        exact ⟨fun _ v hv => absurd (OrderedMap.mem_keys_of_mem hv) hnot, fun _ => rfl⟩
    | some v =>
        constructor
        · intro h v' hv'
          obtain rfl := Option.some.inj (hfind.symm.trans (OrderedMap.find?_of_mem hnodup hv'))
          exact h
        · exact fun h => h v (OrderedMap.mem_of_find? hfind)
  rw [schemaFaults, List.flatMap_eq_nil_iff]
  constructor
  · rintro h ⟨key, v⟩ hp
    cases hshape : keywords.lookup key with
    -- What is no keyword may have any value.
    | none => simp [shapeOf, hshape]
    | some shape =>
        rw [lookup_eq_find?] at hshape
        exact (hkeyword key).mp (h _ (OrderedMap.mem_of_find? hshape)) v hp
  · exact fun h keyword _ => (hkeyword keyword.1).mpr fun v hv => h _ hv

theorem valueFaults_eq_nil_iff {ps : List (String × Json)} :
    valueFaults ps = [] ↔ ∀ p ∈ ps, schemaFaults p.2 = [] := by
  induction ps with
  | nil => simp [valueFaults]
  | cons p ps ih =>
      obtain ⟨k, v⟩ := p
      simp [valueFaults, ih]

/-! ## The keywords of the grammar -/

theorem isDistinct_of_nodup {names : List String} (h : names.Nodup) :
    isDistinct names = true := by
  induction names with
  | nil => rfl
  | cons s names ih =>
      obtain ⟨hs, hnames⟩ := List.nodup_cons.mp h
      simp [isDistinct, hs, ih hnames]

theorem asTexts?_map (names : List String) : asTexts? (names.map .string) = some names := by
  induction names with
  | nil => rfl
  | cons s names ih =>
      rw [asTexts?] at ih ⊢
      rw [List.map_cons, List.mapM_cons, ih]
      rfl

@[simp] theorem shapeFaults_type {type : String} (h : type ∈ simpleTypes) :
    shapeFaults (shapeOf "type") (.string type) = [] := by
  have hshape : shapeOf "type" = .typeNames := by decide
  simp [hshape, isTypeNames, h]

@[simp] theorem shapeFaults_description {v : Json} :
    shapeFaults (shapeOf "description") v = [] ↔ v.IsText := by
  have hshape : shapeOf "description" = .text := by decide
  rw [hshape]
  cases v <;> simp [IsText]

@[simp] theorem shapeFaults_enum (names : List String) :
    shapeFaults (shapeOf "enum") (.ofStrings names) = [] := by
  have hshape : shapeOf "enum" = .list := by decide
  simp [hshape, ofStrings]

@[simp] theorem shapeFaults_required {names : List String} (h : names.Nodup) :
    shapeFaults (shapeOf "required") (.ofStrings names) = [] := by
  have hshape : shapeOf "required" = .texts := by decide
  simp [hshape, ofStrings, isTexts, asTexts?_map, isDistinct_of_nodup h]

@[simp] theorem shapeFaults_items (v : Json) :
    shapeFaults (shapeOf "items") v = schemaFaults v := by
  have hshape : shapeOf "items" = .schema := by decide
  rw [hshape, shapeFaults]

@[simp] theorem shapeFaults_properties {ps : List (String × Json)} :
    shapeFaults (shapeOf "properties") (.object ps) = [] ↔ ∀ p ∈ ps, schemaFaults p.2 = [] := by
  have hshape : shapeOf "properties" = .schemaMap := by decide
  rw [hshape, shapeFaults, valueFaults_eq_nil_iff]

@[simp] theorem shapeFaults_definitions {ds : List (String × Json)} :
    shapeFaults (shapeOf "$defs") (.object ds) = [] ↔ ∀ p ∈ ds, schemaFaults p.2 = [] := by
  have hshape : shapeOf "$defs" = .schemaMap := by decide
  rw [hshape, shapeFaults, valueFaults_eq_nil_iff]

@[simp] theorem shapeFaults_additionalProperties (b : Bool) :
    shapeFaults (shapeOf "additionalProperties") (.bool b) = [] := by
  have hshape : shapeOf "additionalProperties" = .schema := by decide
  rw [hshape, shapeFaults, schemaFaults]

@[simp] theorem shapeFaults_reference (s : String) :
    shapeFaults (shapeOf "$ref") (.string s) = [] := by
  have hshape : shapeOf "$ref" = .text := by decide
  simp [hshape]

/-! ## Layers -/

section Layer

variable {strict : Bool} {type : String} {d : Option Json} {rest members : List (String × Json)}
  {doc v : Json}

/-- What stands below a layer stands below what follows its type and its description. -/
theorem part_typed_iff :
    (Json.object (typed type d ++ rest)).Part v ↔ (Json.object rest).Part v := by
  constructor
  · intro h
    cases h with
    | items hmem => exact .items (by simpa using hmem)
    | property hmem hv => exact .property (by simpa using hmem) hv
    | definition hmem hv => exact .definition (by simpa using hmem) hv
    | alternative hmem hv => exact .alternative (by simpa using hmem) hv
  · intro h
    cases h with
    | items hmem => exact .items (List.mem_append_right _ hmem)
    | property hmem hv => exact .property (List.mem_append_right _ hmem) hv
    | definition hmem hv => exact .definition (List.mem_append_right _ hmem) hv
    | alternative hmem hv => exact .alternative (List.mem_append_right _ hmem) hv

/-- The definitions of a document stand below it beside what stands below it without them. -/
theorem part_definitions_iff {ds : List (String × Json)} :
    (Json.object (rest ++ [("$defs", .object ds)])).Part v ↔
      (Json.object rest).Part v ∨ ∃ k, (k, v) ∈ ds := by
  constructor
  · intro h
    cases h with
    | items hmem => exact .inl (.items (by simpa using hmem))
    | property hmem hv => exact .inl (.property (by simpa using hmem) hv)
    | alternative hmem hv => exact .inl (.alternative (by simpa using hmem) hv)
    | definition hmem hv =>
        rcases List.mem_append.mp hmem with hmem | hmem
        · exact .inl (.definition hmem hv)
        · obtain rfl := Json.object.inj (Prod.mk.inj (List.mem_singleton.mp hmem)).2
          exact .inr ⟨_, hv⟩
  · rintro (h | ⟨k, hv⟩)
    · cases h with
      | items hmem => exact .items (List.mem_append_left _ hmem)
      | property hmem hv => exact .property (List.mem_append_left _ hmem) hv
      | definition hmem hv => exact .definition (List.mem_append_left _ hmem) hv
      | alternative hmem hv => exact .alternative (List.mem_append_left _ hmem) hv
    · exact .definition (List.mem_append_right _ (List.mem_singleton.mpr rfl)) hv

theorem member?_typed (h : "description" ∉ OrderedMap.keys rest) :
    (Json.object (typed type d ++ rest)).member? "description" = d := by
  rw [member?, OrderedMap.find?_append, OrderedMap.find?_eq_none_iff.mpr h]
  cases d <;> simp [typed, OrderedMap.find?]

theorem faults_typed_iff (htype : type ∈ simpleTypes) :
    (∀ p ∈ typed type d, shapeFaults (shapeOf p.1) p.2 = []) ↔ IsTextual d := by
  cases d <;> simp [typed, htype, IsTextual]

/-- The schemas in some members are all that can be wrong with them. -/
structure FaultsInParts (rest : List (String × Json)) : Prop where
  iff_parts : (∀ p ∈ rest, shapeFaults (shapeOf p.1) p.2 = []) ↔
    ∀ v, (Json.object rest).Part v → schemaFaults v = []

/-- The description of a layer is all that can be wrong with it besides what follows. -/
theorem schemaFaults_typed_iff (htype : type ∈ simpleTypes)
    (hkeys : ("type" :: "description" :: OrderedMap.keys rest).Nodup)
    (hrest : FaultsInParts rest) : schemaFaults (.object (typed type d ++ rest)) = [] ↔
      IsTextual ((Json.object (typed type d ++ rest)).member? "description") ∧
        ∀ v, (Json.object (typed type d ++ rest)).Part v → schemaFaults v = [] := by
  have hnodup : (OrderedMap.keys (typed type d ++ rest)).Nodup := by
    refine hkeys.sublist ?_
    cases d <;> simp [OrderedMap.keys, typed]
  have hdescription : "description" ∉ OrderedMap.keys rest :=
    (List.nodup_cons.mp (List.nodup_cons.mp hkeys).2).1
  rw [schemaFaults_object_iff hnodup, List.forall_mem_append, faults_typed_iff htype,
    hrest.iff_parts, member?_typed hdescription]
  simp only [part_typed_iff]

theorem FaultsInParts.definitions {ds : List (String × Json)} (h : FaultsInParts rest) :
    FaultsInParts (rest ++ [("$defs", .object ds)]) := by
  refine ⟨?_⟩
  rw [List.forall_mem_append, h.iff_parts]
  simp only [part_definitions_iff, List.mem_singleton, forall_eq, shapeFaults_definitions]
  constructor
  · rintro ⟨hparts, hds⟩ v (hv | ⟨k, hv⟩)
    · exact hparts v hv
    · exact hds _ hv
  · exact fun h => ⟨fun v hv => h v (.inl hv), fun p hp => h p.2 (.inr ⟨p.1, hp⟩)⟩

/-- A schema that is no reference begins with a type and a description. -/
theorem IsSchema.layer (h : IsSchema strict (.object members))
    (href : "$ref" ∉ OrderedMap.keys members) : ∃ type d rest, members = typed type d ++ rest ∧
      type ∈ simpleTypes ∧ ("type" :: "description" :: (OrderedMap.keys rest ++ ["$defs"])).Nodup ∧
      FaultsInParts rest := by
  cases h with
  | @primitive type d htype =>
      refine ⟨type, d, [], (List.append_nil _).symm, ?_, by decide, ⟨fun _ v hv => ?_, by simp⟩⟩
      · revert htype
        simp only [List.mem_cons, List.not_mem_nil, or_false]
        rintro (rfl | rfl | rfl | rfl) <;> decide
      · cases hv <;> simp_all
  | @enumeration names d hnames =>
      refine ⟨_, d, _, rfl, by decide, by simp [OrderedMap.keys], ⟨fun _ v hv => ?_, by simp⟩⟩
      cases hv <;> simp_all
  | @array items d _ =>
      refine ⟨_, d, _, rfl, by decide, by simp [OrderedMap.keys], ⟨fun h v hv => ?_, fun h => ?_⟩⟩
      · cases hv <;> simp_all
      · simpa using h items (.items List.mem_cons_self)
  | @object ps d _ hkeys =>
      refine ⟨_, d, _, List.append_assoc _ _ _, by decide, ?_, ⟨fun h v hv => ?_, fun h => ?_⟩⟩
      · cases strict <;> simp [OrderedMap.keys]
      · cases hv with
        | @property _ ps' _ _ hmem hv =>
            obtain rfl : ps' = ps := by simpa using hmem
            exact shapeFaults_properties.mp (h _ List.mem_cons_self) _ hv
        | items hmem => simp at hmem
        | definition hmem _ => simp at hmem
        | alternative hmem _ => simp at hmem
      · have hps : ∀ p ∈ ps, schemaFaults p.2 = [] :=
          fun p hp => h p.2 (.property List.mem_cons_self hp)
        cases strict <;> simpa [hkeys] using hps
  | reference id => exact absurd List.mem_cons_self href

theorem IsSchema.schemaFaults_iff_parts (h : IsSchema strict doc) : schemaFaults doc = [] ↔
    IsTextual (doc.member? "description") ∧ ∀ v, doc.Part v → schemaFaults v = [] := by
  obtain ⟨members, rfl⟩ : ∃ members, doc = .object members := by
    cases h <;> exact ⟨_, rfl⟩
  by_cases href : "$ref" ∈ OrderedMap.keys members
  · cases h with
    | reference id =>
        rw [schemaFaults_object_iff (by simp [OrderedMap.keys])]
        refine ⟨fun _ => ⟨by simp [IsTextual, member?, OrderedMap.find?], fun v hv => ?_⟩, fun _ => by simp⟩
        cases hv <;> simp_all
    | primitive _ _ | enumeration _ _ | array _ _ | object _ _ _ =>
        exact absurd href (by simp [OrderedMap.keys])
  · obtain ⟨type, d, rest, rfl, htype, hkeys, hrest⟩ := h.layer href
    exact schemaFaults_typed_iff htype (hkeys.sublist (by simp)) hrest

theorem IsDocument.schemaFaults_iff_parts (h : IsDocument strict doc) : schemaFaults doc = [] ↔
    IsTextual (doc.member? "description") ∧ ∀ v, doc.Part v → schemaFaults v = [] := by
  cases h with
  | plain hschema _ => exact hschema.schemaFaults_iff_parts
  | recursive hschema href _ _ =>
      obtain ⟨type, d, rest, rfl, htype, hkeys, hrest⟩ := hschema.layer href
      rw [List.append_assoc]
      refine schemaFaults_typed_iff htype ?_ hrest.definitions
      rwa [OrderedMap.keys, List.map_append]

/-! ## Documents -/

theorem IsSchema.schemaFaults_iff (h : IsSchema strict doc) :
    schemaFaults doc = [] ↔ doc.Described := by
  induction hsize : sizeOf doc using Nat.strongRecOn generalizing doc with
  | ind size ih =>
      rw [h.schemaFaults_iff_parts, described_iff]
      refine and_congr_right fun _ => forall_congr' fun v => forall_congr' fun hv => ?_
      exact ih _ (hsize ▸ hv.sizeOf_lt) (h.of_part hv) rfl

/-- A document of the grammar is a JSON Schema exactly when its descriptions are texts. -/
theorem IsDocument.isSchema_iff (h : IsDocument strict doc) :
    doc.isSchema = true ↔ doc.Described := by
  have hfaults : doc.isSchema = true ↔ schemaFaults doc = [] := by
    rw [isSchema, schemaFault?, Option.isNone_iff_eq_none, List.head?_eq_none_iff]
  rw [hfaults, h.schemaFaults_iff_parts, described_iff]
  refine and_congr_right fun _ => forall_congr' fun v => forall_congr' fun hv => ?_
  exact (h.of_part hv).schemaFaults_iff

end Layer

end TypeSchema.Json
