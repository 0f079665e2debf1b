import TypeSchema.Proofs.Compile.Root
/-!
# References and definitions

In a compiled schema every reference leads to a definition and every definition is an object, in
the tree as well as in the document that is written from it. The other way round every definition
is referred to, provided that no class has two data members of one name: the second would take
the place of the first, and with it might go the only reference.

The first half follows from what nodes represent (`Represents.compiled`), the second from how they
came about: a class is flagged when its reference is handed out (`Builds.refers`).
-/

namespace TypeSchema

namespace Compile

/-- The nodes in the trees of a result. -/
def Result.walk : Result → List Node
  | .node n => n.walk
  | .members built => built.flatMap fun p => p.2.walk

variable {cat : Catalog} {S : ClassRef → Prop} {L L' : Ledger TypeExpr} {room : Nat}
  {task : Task} {result : Result} {n : Node} {built : List (String × Node)}

theorem mem_walk_members_iff {m : Node} :
    m ∈ (Result.members built).walk ↔ ∃ p ∈ built, m ∈ p.2.walk := by
  rw [Result.walk, List.mem_flatMap]

theorem mem_walk_array_iff {m items : Node} {d : Option Json} :
    m ∈ (Node.array items d none).walk ↔ m = .array items d none ∨ m ∈ items.walk := by
  rw [Node.walk_eq]
  simp [Node.children, Node.definitionList]

/-- Below an object are the nodes of the members that it keeps. -/
theorem mem_walk_objectNode_iff {m : Node} {c : ClassRef} {d : Option Json} :
    m ∈ (objectNode cat c d built).walk ↔
      m = objectNode cat c d built ∨ ∃ p ∈ OrderedMap.ofList built, m ∈ p.2.walk := by
  have hchildren : (objectNode cat c d built).children =
      (OrderedMap.ofList built).map Prod.snd := by
    simp [objectNode, Node.children, Node.definitionList]
  rw [Node.walk_eq, List.mem_cons, hchildren, List.flatMap_map, List.mem_flatMap]

/-! ## References lead somewhere -/

/-- Every node that represents a type is of a kind that the compiler makes, and every reference in
it is to a class of `S`. -/
theorem Represents.compiled (h : Represents cat S task result) : ∀ m ∈ result.walk,
    Node.Compiled (fun id => ∃ c, S c ∧ id = cat.referenceId c.toExpr) m := by
  induction h with
  | scalar hform =>
      intro m hm
      rcases Catalog.scalar_of_form hform with ⟨k, d, rfl⟩ | ⟨values, d, rfl⟩
      · obtain rfl := List.mem_singleton.mp hm
        exact .leaf k d
      · obtain rfl := List.mem_singleton.mp hm
        exact .enum values d
  | array _ _ ih =>
      intro m hm
      rcases mem_walk_array_iff.mp hm with rfl | hm
      · exact .array _ _ _
      · exact ih m hm
  | object _ _ ih => exact ih
  | reference hc =>
      intro m hm
      obtain rfl := List.mem_singleton.mp hm
      exact .reference ⟨_, hc, rfl⟩
  | inline _ _ ih =>
      intro m hm
      rcases mem_walk_objectNode_iff.mp hm with rfl | ⟨p, hp, hm⟩
      · exact .object _ _ _ _
      · exact ih m (mem_walk_members_iff.mpr ⟨p, OrderedMap.mem_of_mem_ofList hp, hm⟩)
  | nil => exact fun m hm => absurd hm List.not_mem_nil
  | cons _ _ ihn ihs =>
      intro m hm
      rcases List.mem_append.mp hm with hm | hm
      · exact ihn m hm
      · exact ihs m hm

/-- Below the root are the nodes below the node it was made of, and those of the definitions. -/
theorem Builds.walk_rooted {t : TypeExpr} {given : Option Json} {m : Node}
    (h : Builds cat room .empty (.type t given) (.node m) L) :
    (rooted L m).walk = rooted L m :: (m.descendants ++ Node.walkValues L.definitions) := by
  rw [Node.walk_eq, h.children_rooted, List.flatMap_append, ← Node.descendants_eq,
    Node.walkValues_eq]

/-- Everywhere in a root, references are to keys of its definitions. -/
theorem Builds.compiled {t : TypeExpr} {given : Option Json} {m : Node}
    (h : Builds cat room .empty (.type t given) (.node m) L) :
    ∀ x ∈ (rooted L m).walk, Node.Compiled (· ∈ OrderedMap.keys L.definitions) x := by
  have hkey : ∀ {x}, Node.Compiled (fun id => ∃ c, Flagged L c ∧ id = cat.referenceId c.toExpr) x →
      Node.Compiled (· ∈ OrderedMap.keys L.definitions) x := by
    intro x hx
    cases hx with
    | reference hid =>
        obtain ⟨c, hc, rfl⟩ := hid
        exact .reference (h.complete.sound.mem_keys_definitions hc)
    | leaf k d => exact .leaf k d
    | enum values d => exact .enum values d
    | array items d ds => exact .array items d ds
    | object ps required d ds => exact .object ps required d ds
  obtain ⟨-, -, hrepresents⟩ := h.sound .empty
  intro x hx
  rw [h.walk_rooted, List.mem_cons, List.mem_append, Node.walkValues_eq, List.flatMap_map,
    List.mem_flatMap] at hx
  rcases hx with rfl | hx | ⟨p, hp, hx⟩
  · exact h.compiled_rooted _
  · exact hkey (hrepresents.compiled x (List.mem_cons_of_mem _ hx))
  · obtain ⟨c, -, -, d, fields, built, hfields, hnode, hbuilt⟩ := h.complete.of_mem_definitions hp
    have hobject : Represents cat (Flagged L) (.object c none) (.node p.2) :=
      hnode ▸ .inline hfields hbuilt
    exact hkey (hobject.compiled x hx)

/-! ## Definitions are referred to -/

/-- No class that was visited has two data members of one name. -/
def DistinctNames (cat : Catalog) (L : Ledger TypeExpr) : Prop :=
  ∀ t ∈ L.keys, ∀ c ∈ t.asClass?, ∀ fields ∈ (cat.fieldsOf c).toOption,
    (fields.map (·.name)).Nodup

instance : Decidable (DistinctNames cat L) := by
  unfold DistinctNames
  infer_instance

theorem DistinctNames.of_extends (h : DistinctNames cat L') (hext : Extends cat L L') :
    DistinctNames cat L :=
  fun t ht => h t (hext.keys.subset ht)

theorem DistinctNames.nodup (h : DistinctNames cat L) {c : ClassRef} {fields : List SchemaField}
    (hc : c.toExpr ∈ L.keys) (hfields : cat.fieldsOf c = .ok fields) :
    (fields.map (·.name)).Nodup :=
  h _ hc c (TypeExpr.asClass?_toExpr c) fields (by simp [hfields, Except.toOption])

/-- Where names are distinct, an object keeps every member that is built. -/
theorem Builds.ofList_built {c : ClassRef} {fields : List SchemaField}
    (h : Builds cat room (opened cat c L) (.members fields) (.members built) L')
    (hL : Sound cat (opened cat c L)) (hfields : cat.fieldsOf c = .ok fields)
    (hnames : DistinctNames cat L') :
    (fields.map (·.name)).Nodup ∧ OrderedMap.ofList built = built := by
  obtain ⟨-, hext, -⟩ := h.sound hL
  have hvisited : c.toExpr ∈ (opened cat c L).keys :=
    Ledger.mem_keys_iff.mpr ⟨_, get?_opened_self cat c L⟩
  have hnodup := hnames.nodup (hext.keys.subset hvisited) hfields
  refine ⟨hnodup, OrderedMap.ofList_of_nodup ?_⟩
  rwa [h.keys_members]

/-- A class that is flagged on the way is referred to in the result. -/
theorem Builds.refers (h : Builds cat room L task result L') (hL : Sound cat L)
    (hnames : DistinctNames cat L') {c : ClassRef} (hc : Flagged L' c) :
    Flagged L c ∨ .reference (some (cat.referenceId c.toExpr)) ∈ result.walk := by
  induction h with
  | scalar _ => exact .inl hc
  | array _ _ ih =>
      exact (ih hL hnames hc).imp_right fun hm => mem_walk_array_iff.mpr (.inr hm)
  | object _ _ ih => exact ih hL hnames hc
  | placeholder hcustom he href =>
      rcases hc.of_setRecursive with rfl | hc
      · rw [hL.node_of_reference hcustom he href]
        exact .inr (Node.mem_walk_self _)
      · exact .inl hc
  | reuse _ _ _ => exact .inl hc
  | @fresh _ L _ c' _ _ built hnew hfields hbuilds ih =>
      rcases ih (hL.opened hnew) hnames hc with hc | hm
      · exact .inl ((hL.flagged_opened hnew).mp hc)
      · obtain ⟨-, hkept⟩ := hbuilds.ofList_built (hL.opened hnew) hfields hnames
        obtain ⟨p, hp, hm⟩ := mem_walk_members_iff.mp hm
        exact .inr (mem_walk_objectNode_iff.mpr (.inr ⟨p, hkept.symm ▸ hp, hm⟩))
  | nil => exact .inl hc
  | cons hn hbuilt ihn ihs =>
      obtain ⟨hL₁, -, -⟩ := hn.sound hL
      obtain ⟨-, hext, -⟩ := hbuilt.sound hL₁
      rcases ihs hL₁ hnames hc with hc | hm
      · rcases ihn hL (hnames.of_extends hext) hc with hc | hm
        · exact .inl hc
        · exact .inr (List.mem_append_left _ hm)
      · exact .inr (List.mem_append_right _ hm)

/-- Every definition of a root is referred to below the root. -/
theorem Builds.reference_of_mem_definitions {t : TypeExpr} {given : Option Json} {m : Node}
    (h : Builds cat room .empty (.type t given) (.node m) L) (hnames : DistinctNames cat L)
    {id : String} (hid : id ∈ OrderedMap.keys L.definitions) :
    .reference (some id) ∈ (rooted L m).walk := by
  obtain ⟨⟨id', x⟩, hx, rfl⟩ := List.mem_map.mp hid
  obtain ⟨c, hc, rfl, -⟩ := h.complete.of_mem_definitions hx
  rcases h.refers .empty hnames hc with hempty | hm
  · exact absurd hempty (by simp [Flagged])
  · rw [h.walk_rooted]
    rcases List.mem_cons.mp hm with rfl | hm
    · exact absurd rfl (h.ne_reference _)
    · exact List.mem_cons_of_mem _ (List.mem_append_left _ hm)

/-! ## Documents of roots -/

section Document

variable {t : TypeExpr} {given : Option Json} {m : Node} {strict : Bool} {doc : Json}

/-- The identifiers of definitions need no escapes. -/
theorem Builds.isPlain_of_mem_definitions (h : Builds cat room .empty (.type t given) (.node m) L)
    {id : String} (hid : id ∈ OrderedMap.keys L.definitions) : Json.IsPlain id.toList := by
  obtain ⟨⟨id, x⟩, hx, rfl⟩ := List.mem_map.mp hid
  obtain ⟨c, -, rfl, -⟩ := h.complete.of_mem_definitions hx
  exact NameId.isPlain_ofName _

/-- The document has definitions under the identifiers of the ledger. -/
theorem Builds.keys_of_render (h : Builds cat room .empty (.type t given) (.node m) L)
    (hdoc : (rooted L m).render strict = .ok doc) {defs : List (String × Json)}
    (hdefs : doc.member? "$defs" = some (.object defs)) :
    OrderedMap.keys defs = OrderedMap.keys L.definitions := by
  have hroot := h.compiled _ (Node.mem_walk_self _)
  rw [Node.keys_definitions_of_render hroot hdoc hdefs, h.definitions_rooted]

/-- A reference to the identifier of a definition points to the definition. -/
theorem Builds.resolve?_of_mem (h : Builds cat room .empty (.type t given) (.node m) L)
    (hdoc : (rooted L m).render strict = .ok doc) {defs : List (String × Json)} {id : String}
    {target : Json} (hdefs : doc.member? "$defs" = some (.object defs))
    (hmem : (id, target) ∈ defs) : doc.resolve? (Node.referenceStart ++ id) = some target := by
  have hkeys := h.keys_of_render hdoc hdefs
  have hid : id ∈ OrderedMap.keys L.definitions := hkeys ▸ OrderedMap.mem_keys_of_mem hmem
  refine Json.resolve?_of_mem hdefs ?_ (h.isPlain_of_mem_definitions hid) hmem
  rw [hkeys]
  exact OrderedMap.nodup_keys_ofList _

end Document

end Compile

namespace Catalog

open Compile

variable {cat : Catalog} {limit : Int} {t : TypeExpr} {n : Node}

/-- References and definitions of a schema fit together, in the tree and in either document that
is written from it. -/
theorem build_references (h : cat.build limit t = .ok n) (strict : Bool) :
    (∀ id, .reference id ∈ n.walk → ∃ key ∈ OrderedMap.keys n.definitions, id = some key) ∧
    (∀ p ∈ n.definitions, ∃ ps required d, p.2 = .object ps required d none) ∧
    ∃ doc, n.render strict = .ok doc ∧
      (∀ s, doc.HasReference s → ∃ defs key target, doc.member? "$defs" = some (.object defs) ∧
        (key, target) ∈ defs ∧ s = Node.referenceStart ++ key ∧ doc.resolve? s = some target) ∧
      (DistinctNames cat (cat.visits limit t) →
        ∀ defs, doc.member? "$defs" = some (.object defs) → ∀ key target, (key, target) ∈ defs →
          ∃ s, doc.HasReference s ∧ s = Node.referenceStart ++ key ∧
            doc.resolve? s = some target) := by
  obtain ⟨-, m, hm, rfl⟩ := build_builds h
  have hcompiled := hm.compiled
  obtain ⟨doc, hdoc⟩ : ∃ doc, (rooted (cat.visits limit t) m).render strict = .ok doc :=
    Node.exists_render hcompiled
  rw [hm.definitions_rooted]
  refine ⟨?_, ?_, doc, hdoc, ?_, ?_⟩
  · intro id hid
    cases hcompiled _ hid with
    | reference hkey => exact ⟨_, hkey, rfl⟩
  · intro p hp
    obtain ⟨c, -, -, d, fields, built, -, hnode, -⟩ := hm.complete.of_mem_definitions hp
    exact ⟨_, _, _, hnode⟩
  · intro s hs
    obtain ⟨id, hid, rfl⟩ := (Node.hasReference_iff hcompiled hdoc).mp hs
    cases hcompiled _ hid with
    | reference hkey =>
        rw [← hm.definitions_rooted] at hkey
        obtain ⟨defs, target, hdefs, hmem⟩ :=
          Node.exists_definition (hcompiled _ (Node.mem_walk_self _)) hdoc hkey
        exact ⟨defs, _, target, hdefs, hmem, rfl, hm.resolve?_of_mem hdoc hdefs hmem⟩
  · intro hnames defs hdefs key target hmem
    have hkey : key ∈ OrderedMap.keys (cat.visits limit t).definitions :=
      hm.keys_of_render hdoc hdefs ▸ OrderedMap.mem_keys_of_mem hmem
    have hid := hm.reference_of_mem_definitions hnames hkey
    exact ⟨_, (Node.hasReference_iff hcompiled hdoc).mpr ⟨key, hid, rfl⟩, rfl,
      hm.resolve?_of_mem hdoc hdefs hmem⟩

theorem build_references_households :
    ∃ n doc, households.build 8 (ClassRef.declared 0).toExpr = .ok n ∧
      n.definitions.length = 2 ∧ n.render true = .ok doc ∧
      ∀ defs, doc.member? "$defs" = some (.object defs) → ∀ key ∈ OrderedMap.keys defs,
        doc.HasReference (Node.referenceStart ++ key) := by
  obtain ⟨n, hn, hlength⟩ := exists_build_households
  obtain ⟨-, -, doc, hdoc, -, hconverse⟩ := build_references hn true
  refine ⟨n, doc, hn, hlength, hdoc, ?_⟩
  intro defs hdefs key hkey
  obtain ⟨⟨key, target⟩, hmem, rfl⟩ := List.mem_map.mp hkey
  obtain ⟨s, hs, rfl, -⟩ := hconverse (by decide +kernel) defs hdefs key target hmem
  exact hs

end Catalog

end TypeSchema
