import Mathlib.Logic.Relation
import TypeSchema.Proofs.Pointer
/-!
# Schema positions of documents

A document holds other documents at *schema positions*: as items, as properties, as definitions
and as alternatives. Text under any other key is data, and so are the names of properties. For
the nodes that the compiler makes, the schema positions of a document are the nodes of the tree
it was written from: what stands there is the document of a node of the walk
(`walk_of_hasSchema`), and every node of the walk has such a place (`hasSchema_of_walk`).
-/

namespace TypeSchema

/-! ## Positions -/

namespace Json

/-- A document stands at a schema position directly below another. -/
inductive Part : Json → Json → Prop
  | items {members v} : ("items", v) ∈ members → Part (.object members) v
  | property {members ps k v} : ("properties", .object ps) ∈ members → (k, v) ∈ ps →
      Part (.object members) v
  | definition {members ds k v} : ("$defs", .object ds) ∈ members → (k, v) ∈ ds →
      Part (.object members) v
  | alternative {members vs v} : ("anyOf", .array vs) ∈ members → v ∈ vs →
      Part (.object members) v

theorem Part.sizeOf_lt {doc v : Json} (h : doc.Part v) : sizeOf v < sizeOf doc := by
  cases h with
  | items hmem =>
      have hlt := List.sizeOf_lt_of_mem hmem
      simp only [Prod.mk.sizeOf_spec, object.sizeOf_spec] at hlt ⊢
      omega
  | property hmem hv | definition hmem hv =>
      have hlt := List.sizeOf_lt_of_mem hmem
      have hlt' := List.sizeOf_lt_of_mem hv
      simp only [Prod.mk.sizeOf_spec, object.sizeOf_spec] at hlt hlt' ⊢
      omega
  | alternative hmem hv =>
      have hlt := List.sizeOf_lt_of_mem hmem
      have hlt' := List.sizeOf_lt_of_mem hv
      simp only [Prod.mk.sizeOf_spec, object.sizeOf_spec, array.sizeOf_spec] at hlt hlt' ⊢
      omega

/-- A document stands at a schema position of another, which may be the other itself. -/
def HasSchema : Json → Json → Prop := Relation.ReflTransGen Part

/-- At some schema position stands a reference with this text. -/
def HasReference (doc : Json) (s : String) : Prop :=
  ∃ members, doc.HasSchema (.object members) ∧ ("$ref", .string s) ∈ members

end Json

namespace Node

/-! ## Walks as paths -/

theorem sizeOf_lt_of_mem_values {n : Node} {ps : List (String × Node)}
    (h : n ∈ ps.map Prod.snd) : sizeOf n < sizeOf ps := by
  obtain ⟨⟨k, n'⟩, hp, rfl⟩ := List.mem_map.mp h
  have hlt := List.sizeOf_lt_of_mem hp
  simp only [Prod.mk.sizeOf_spec] at hlt ⊢
  omega

theorem sizeOf_lt_of_mem_definitionList {n : Node} {definitions : Option (List (String × Node))}
    (h : n ∈ (definitionList definitions).map Prod.snd) : sizeOf n < sizeOf definitions := by
  cases definitions with
  | none => simp [definitionList] at h
  | some ds =>
      have hlt := sizeOf_lt_of_mem_values h
      simp only [definitionList, Option.getD_some, Option.some.sizeOf_spec] at hlt ⊢
      omega

theorem sizeOf_lt_of_mem_children {c : Node} : {n : Node} → c ∈ n.children → sizeOf c < sizeOf n
  | array items d definitions, h => by
    simp only [children, List.mem_cons] at h
    simp only [array.sizeOf_spec]
    rcases h with rfl | h
    · omega
    · have hlt := sizeOf_lt_of_mem_definitionList h
      omega
  | object ps required d definitions, h => by
    simp only [children, List.mem_append] at h
    simp only [object.sizeOf_spec]
    rcases h with h | h
    · have hlt := sizeOf_lt_of_mem_values h
      omega
    · have hlt := sizeOf_lt_of_mem_definitionList h
      omega
  | anyOf alternatives d, h => by
    have hlt := List.sizeOf_lt_of_mem (show c ∈ alternatives from h)
    simp only [anyOf.sizeOf_spec]
    omega
  | derived occurrence name base, h => by
    have hlt := sizeOf_lt_of_mem_children (show c ∈ base.children from h)
    simp only [derived.sizeOf_spec]
    omega
  | leaf _ _, h | enum _ _, h | reference _, h | custom _, h | abstract _ _, h | foreign _, h => by
    simp [children] at h

/-- Induction over a tree by the parts of its nodes. -/
@[elab_as_elim]
theorem childInduction {P : Node → Prop} (step : ∀ n, (∀ c ∈ n.children, P c) → P n) (n : Node) :
    P n := by
  induction hsize : sizeOf n using Nat.strongRecOn generalizing n with
  | ind size ih => exact step n fun c hc => ih _ (hsize ▸ sizeOf_lt_of_mem_children hc) c rfl

/-- A walk visits what paths through parts lead to. -/
theorem mem_walk_iff {n m : Node} :
    m ∈ n.walk ↔ Relation.ReflTransGen (fun a b => b ∈ a.children) n m := by
  constructor
  · induction n using childInduction with
    | step n ih =>
        intro h
        rw [walk_eq, List.mem_cons, List.mem_flatMap] at h
        rcases h with rfl | ⟨c, hc, hm⟩
        · exact .refl
        · exact .head hc (ih c hc hm)
  · intro h
    induction h using Relation.ReflTransGen.head_induction_on with
    | refl => exact List.mem_cons_self
    | head hc _ ih =>
        rw [walk_eq]
        exact List.mem_cons_of_mem _ (List.mem_flatMap.mpr ⟨_, hc, ih⟩)

theorem mem_walk_self (n : Node) : n ∈ n.walk := List.mem_cons_self

theorem mem_walk_of_child {n m c : Node} (hm : m ∈ n.walk) (hc : c ∈ m.children) : c ∈ n.walk :=
  mem_walk_iff.mpr (.tail (mem_walk_iff.mp hm) hc)

/-! ## Documents taken apart -/

/-- The definitions of a node. -/
def definitions : Node → List (String × Node)
  | array _ _ ds => definitionList ds
  | object _ _ _ ds => definitionList ds
  | derived _ _ base => base.definitions
  | _ => []

/-- The kinds of nodes that the compiler makes, where `ids` are the identifiers that references
have. -/
inductive Compiled (ids : String → Prop) : Node → Prop
  | leaf (k d) : Compiled ids (.leaf k d)
  | enum (values d) : Compiled ids (.enum values d)
  | array (items d ds) : Compiled ids (.array items d ds)
  | object (ps required d ds) : Compiled ids (.object ps required d ds)
  | reference {id} : ids id → Compiled ids (.reference (some id))

variable {strict : Bool} {ids : String → Prop}

@[simp] theorem mem_descriptionEntry {d : Option Json} {p : String × Json} :
    p ∈ descriptionEntry d ↔ ∃ value, d = some value ∧ p = ("description", value) := by
  cases d <;> simp [descriptionEntry]

@[simp] theorem mem_requiredEntry {names : List String} {required : Option (List String)}
    {p : String × Json} : p ∈ requiredEntry strict names required ↔
      ∃ listed, (if strict then some names else required) = some listed ∧
        p = ("required", .ofStrings listed) := by
  unfold requiredEntry
  split
  · next listed hlisted => simp [hlisted]
  · next hnone => simp [hnone]

@[simp] theorem mem_closedEntry {p : String × Json} :
    p ∈ closedEntry strict ↔ strict = true ∧ p = ("additionalProperties", .bool false) := by
  cases strict <;> simp [closedEntry]

@[simp] theorem mem_definitionsEntry {rendered : List (String × Json)} {p : String × Json} :
    p ∈ definitionsEntry rendered ↔ rendered ≠ [] ∧ p = ("$defs", .object rendered) := by
  cases rendered <;> simp [definitionsEntry]

theorem renderDefinitions_eq (definitions : Option (List (String × Node))) :
    renderDefinitions strict definitions = renderValues strict (definitionList definitions) := by
  cases definitions <;> simp [renderDefinitions, definitionList, renderValues]

/-- What is put together of two results is there exactly where both of them are. -/
theorem combine_eq_ok_iff {α β γ : Type} {x : Except Node α} {y : Except Node β} {f : α → β → γ}
    {c : γ} : (do let a ← x; let b ← y; return f a b) = .ok c ↔
      ∃ a b, x = .ok a ∧ y = .ok b ∧ c = f a b := by
  cases x with
  | error e => simp [bind, Except.bind]
  | ok a =>
      cases y with
      | error e => simp [bind, Except.bind]
      | ok b => simp [bind, Except.bind, pure, Except.pure, eq_comm]

theorem renderValues_cons_iff {k : String} {n : Node} {rest : List (String × Node)}
    {bodies : List (String × Json)} : renderValues strict ((k, n) :: rest) = .ok bodies ↔
      ∃ v vs, n.render strict = .ok v ∧ renderValues strict rest = .ok vs ∧
        bodies = (k, v) :: vs := by
  rw [renderValues]
  exact combine_eq_ok_iff

theorem render_array_iff {items : Node} {d : Option Json}
    {definitions : Option (List (String × Node))} {doc : Json} :
    (Node.array items d definitions).render strict = .ok doc ↔
      ∃ body rendered, items.render strict = .ok body ∧
        renderValues strict (definitionList definitions) = .ok rendered ∧
        doc = .object ((("type", .string "array") :: descriptionEntry d) ++ [("items", body)] ++
          definitionsEntry rendered) := by
  rw [render, renderDefinitions_eq]
  exact combine_eq_ok_iff

theorem render_object_iff {ps : List (String × Node)} {required : Option (List String)}
    {d : Option Json} {definitions : Option (List (String × Node))} {doc : Json} :
    (Node.object ps required d definitions).render strict = .ok doc ↔
      ∃ body rendered, renderValues strict ps = .ok body ∧
        renderValues strict (definitionList definitions) = .ok rendered ∧
        doc = .object ((("type", .string "object") :: descriptionEntry d) ++
          [("properties", .object body)] ++ requiredEntry strict (ps.map Prod.fst) required ++
          closedEntry strict ++ definitionsEntry rendered) := by
  rw [render, renderDefinitions_eq]
  exact combine_eq_ok_iff

/-! ## Values under their keys -/

theorem keys_renderValues {ps : List (String × Node)} {bodies : List (String × Json)}
    (h : renderValues strict ps = .ok bodies) : OrderedMap.keys bodies = OrderedMap.keys ps := by
  induction ps generalizing bodies with
  | nil =>
      obtain rfl := Except.ok.inj h
      rfl
  | cons p ps ih =>
      obtain ⟨v, vs, -, hvs, rfl⟩ := renderValues_cons_iff.mp h
      simp [ih hvs]

theorem mem_of_renderValues {ps : List (String × Node)} {bodies : List (String × Json)}
    (h : renderValues strict ps = .ok bodies) {k : String} {v : Json} (hv : (k, v) ∈ bodies) :
    ∃ n, (k, n) ∈ ps ∧ n.render strict = .ok v := by
  induction ps generalizing bodies with
  | nil =>
      obtain rfl := Except.ok.inj h
      simp at hv
  | cons p ps ih =>
      obtain ⟨w, vs, hw, hvs, rfl⟩ := renderValues_cons_iff.mp h
      rcases List.mem_cons.mp hv with heq | hv
      · obtain ⟨rfl, rfl⟩ := Prod.mk.inj heq
        exact ⟨p.2, List.mem_cons_self, hw⟩
      · obtain ⟨n, hn, hrender⟩ := ih hvs hv
        exact ⟨n, List.mem_cons_of_mem _ hn, hrender⟩

theorem renderValues_of_mem {ps : List (String × Node)} {bodies : List (String × Json)}
    (h : renderValues strict ps = .ok bodies) {k : String} {n : Node} (hn : (k, n) ∈ ps) :
    ∃ v, (k, v) ∈ bodies ∧ n.render strict = .ok v := by
  induction ps generalizing bodies with
  | nil => simp at hn
  | cons p ps ih =>
      obtain ⟨w, vs, hw, hvs, rfl⟩ := renderValues_cons_iff.mp h
      rcases List.mem_cons.mp hn with rfl | hn
      · exact ⟨w, List.mem_cons_self, hw⟩
      · obtain ⟨v, hv, hrender⟩ := ih hvs hn
        exact ⟨v, List.mem_cons_of_mem _ hv, hrender⟩

theorem exists_renderValues {ps : List (String × Node)}
    (h : ∀ p ∈ ps, ∃ v, p.2.render strict = .ok v) :
    ∃ bodies, renderValues strict ps = .ok bodies := by
  induction ps with
  | nil => exact ⟨[], rfl⟩
  | cons p ps ih =>
      obtain ⟨v, hv⟩ := h p List.mem_cons_self
      obtain ⟨vs, hvs⟩ := ih fun q hq => h q (List.mem_cons_of_mem _ hq)
      exact ⟨(p.1, v) :: vs, renderValues_cons_iff.mpr ⟨v, vs, hv, hvs, rfl⟩⟩

/-! ## Positions and parts -/

/-- What stands directly below the document of a node is the document of a part of the node. -/
theorem exists_child_of_part {n : Node} {doc v : Json} (hn : Compiled ids n)
    (h : n.render strict = .ok doc) (hpart : doc.Part v) :
    ∃ c ∈ n.children, c.render strict = .ok v := by
  -- Each kind of document has positions of its own kinds. The keys tell that it has no others.
  cases hn with
  | leaf k d =>
      obtain rfl := Except.ok.inj h
      cases hpart <;> simp_all
  | enum values d =>
      obtain rfl := Except.ok.inj h
      cases hpart <;> simp_all
  | reference _ =>
      obtain rfl := Except.ok.inj h
      cases hpart <;> simp_all
  | array items d definitions =>
      obtain ⟨body, rendered, hbody, hrendered, rfl⟩ := render_array_iff.mp h
      cases hpart with
      | items hmem =>
          obtain rfl : v = body := by simpa using hmem
          exact ⟨items, List.mem_cons_self, hbody⟩
      | definition hmem hv =>
          obtain ⟨-, rfl⟩ : rendered ≠ [] ∧ _ = rendered := by simpa using hmem
          obtain ⟨m, hm, hrender⟩ := mem_of_renderValues hrendered hv
          exact ⟨m, List.mem_cons_of_mem _ (List.mem_map_of_mem hm), hrender⟩
      | property hmem _ => simp at hmem
      | alternative hmem _ => simp at hmem
  | object ps required d definitions =>
      obtain ⟨body, rendered, hbody, hrendered, rfl⟩ := render_object_iff.mp h
      cases hpart with
      | property hmem hv =>
          obtain rfl : _ = body := by simpa using hmem
          obtain ⟨m, hm, hrender⟩ := mem_of_renderValues hbody hv
          exact ⟨m, List.mem_append_left _ (List.mem_map_of_mem hm), hrender⟩
      | definition hmem hv =>
          obtain ⟨-, rfl⟩ : rendered ≠ [] ∧ _ = rendered := by simpa using hmem
          obtain ⟨m, hm, hrender⟩ := mem_of_renderValues hrendered hv
          exact ⟨m, List.mem_append_right _ (List.mem_map_of_mem hm), hrender⟩
      | items hmem => simp at hmem
      | alternative hmem _ => simp at hmem

/-- A part of a node has its document directly below that of the node. -/
theorem exists_part_of_child {n c : Node} {doc : Json} (hn : Compiled ids n)
    (h : n.render strict = .ok doc) (hc : c ∈ n.children) :
    ∃ v, c.render strict = .ok v ∧ doc.Part v := by
  cases hn with
  | leaf k d => simp [children] at hc
  | enum values d => simp [children] at hc
  | reference _ => simp [children] at hc
  | array items d definitions =>
      obtain ⟨body, rendered, hbody, hrendered, rfl⟩ := render_array_iff.mp h
      rcases List.mem_cons.mp hc with rfl | hc
      · exact ⟨body, hbody, .items (by simp)⟩
      · obtain ⟨⟨k, c⟩, hmem, rfl⟩ := List.mem_map.mp hc
        obtain ⟨v, hv, hrender⟩ := renderValues_of_mem hrendered hmem
        exact ⟨v, hrender, .definition (by simpa using List.ne_nil_of_mem hv) hv⟩
  | object ps required d definitions =>
      obtain ⟨body, rendered, hbody, hrendered, rfl⟩ := render_object_iff.mp h
      rcases List.mem_append.mp hc with hc | hc
      · obtain ⟨⟨k, c⟩, hmem, rfl⟩ := List.mem_map.mp hc
        obtain ⟨v, hv, hrender⟩ := renderValues_of_mem hbody hmem
        exact ⟨v, hrender, .property (by simp) hv⟩
      · obtain ⟨⟨k, c⟩, hmem, rfl⟩ := List.mem_map.mp hc
        obtain ⟨v, hv, hrender⟩ := renderValues_of_mem hrendered hmem
        exact ⟨v, hrender, .definition (by simpa using List.ne_nil_of_mem hv) hv⟩

variable {n : Node} {doc : Json}

/-- What stands at a schema position of a document is the document of a node of the tree. -/
theorem walk_of_hasSchema (hn : ∀ m ∈ n.walk, Compiled ids m) (h : n.render strict = .ok doc)
    {sub : Json} (hsub : doc.HasSchema sub) : ∃ m ∈ n.walk, m.render strict = .ok sub := by
  induction hsub with
  | refl => exact ⟨n, mem_walk_self n, h⟩
  | tail _ hpart ih =>
      obtain ⟨m, hm, hrender⟩ := ih
      obtain ⟨c, hc, hv⟩ := exists_child_of_part (hn m hm) hrender hpart
      exact ⟨c, mem_walk_of_child hm hc, hv⟩

/-- Every node of the tree has its document at a schema position. -/
theorem hasSchema_of_walk (hn : ∀ m ∈ n.walk, Compiled ids m) (h : n.render strict = .ok doc)
    {m : Node} (hm : m ∈ n.walk) : ∃ sub, m.render strict = .ok sub ∧ doc.HasSchema sub := by
  induction mem_walk_iff.mp hm with
  | refl => exact ⟨doc, h, .refl⟩
  | tail hpath hc ih =>
      have hm := mem_walk_iff.mpr hpath
      obtain ⟨sub, hrender, hsub⟩ := ih hm
      obtain ⟨v, hv, hpart⟩ := exists_part_of_child (hn _ hm) hrender hc
      exact ⟨v, hv, hsub.tail hpart⟩

/-- Only references write a reference, and they write their identifier. -/
theorem eq_reference_of_render (hn : Compiled ids n) {members : List (String × Json)}
    (h : n.render strict = .ok (.object members)) {v : Json} (hv : ("$ref", v) ∈ members) :
    ∃ id, n = .reference (some id) ∧ v = .string (referenceStart ++ id) := by
  cases hn with
  | leaf k d =>
      obtain rfl := Json.object.inj (Except.ok.inj h)
      simp at hv
  | enum values d =>
      obtain rfl := Json.object.inj (Except.ok.inj h)
      simp at hv
  | array items d definitions =>
      obtain ⟨body, rendered, -, -, hdoc⟩ := render_array_iff.mp h
      obtain rfl := Json.object.inj hdoc
      simp at hv
  | object ps required d definitions =>
      obtain ⟨body, rendered, -, -, hdoc⟩ := render_object_iff.mp h
      obtain rfl := Json.object.inj hdoc
      simp at hv
  | reference _ =>
      obtain rfl := Json.object.inj (Except.ok.inj h)
      exact ⟨_, rfl, by simpa using hv⟩

/-- The references of a document are those of the tree. -/
theorem hasReference_iff (hn : ∀ m ∈ n.walk, Compiled ids m) (h : n.render strict = .ok doc)
    {s : String} :
    doc.HasReference s ↔ ∃ id, .reference (some id) ∈ n.walk ∧ s = referenceStart ++ id := by
  constructor
  · rintro ⟨members, hsub, hs⟩
    obtain ⟨m, hm, hrender⟩ := walk_of_hasSchema hn h hsub
    obtain ⟨id, rfl, htext⟩ := eq_reference_of_render (hn m hm) hrender hs
    exact ⟨id, hm, Json.string.inj htext⟩
  · rintro ⟨id, hm, rfl⟩
    obtain ⟨sub, hrender, hsub⟩ := hasSchema_of_walk hn h hm
    obtain rfl := Except.ok.inj hrender
    exact ⟨_, hsub, List.mem_singleton_self _⟩

/-- Every tree of such nodes can be written. -/
theorem exists_render (hn : ∀ m ∈ n.walk, Compiled ids m) : ∃ doc, n.render strict = .ok doc := by
  induction n using childInduction with
  | step n ih =>
      have hchild : ∀ c ∈ n.children, ∃ v, c.render strict = .ok v := by
        intro c hc
        refine ih c hc fun m hm => hn m ?_
        rw [walk_eq]
        exact List.mem_cons_of_mem _ (List.mem_flatMap.mpr ⟨c, hc, hm⟩)
      cases hn n (mem_walk_self n) with
      | leaf k d => exact ⟨_, rfl⟩
      | enum values d => exact ⟨_, rfl⟩
      | reference _ => exact ⟨_, rfl⟩
      | array items d definitions =>
          obtain ⟨body, hbody⟩ := hchild items List.mem_cons_self
          obtain ⟨rendered, hrendered⟩ := exists_renderValues fun p hp =>
            hchild p.2 (List.mem_cons_of_mem _ (List.mem_map_of_mem hp))
          exact ⟨_, render_array_iff.mpr ⟨body, rendered, hbody, hrendered, rfl⟩⟩
      | object ps required d definitions =>
          obtain ⟨body, hbody⟩ := exists_renderValues fun p hp =>
            hchild p.2 (List.mem_append_left _ (List.mem_map_of_mem hp))
          obtain ⟨rendered, hrendered⟩ := exists_renderValues fun p hp =>
            hchild p.2 (List.mem_append_right _ (List.mem_map_of_mem hp))
          exact ⟨_, render_object_iff.mpr ⟨body, rendered, hbody, hrendered, rfl⟩⟩

/-- The member of a document for definitions holds what the definitions of the node are written
as. -/
theorem definitions_of_render (hn : Compiled ids n) (h : n.render strict = .ok doc) :
    ∃ rendered, renderValues strict n.definitions = .ok rendered ∧
      doc.member? "$defs" = if rendered = [] then none else some (.object rendered) := by
  -- Definitions are written last, and nothing before them has their key.
  have hlast : ∀ (front : List (String × Json)) rendered, "$defs" ∉ OrderedMap.keys front →
      (Json.object (front ++ definitionsEntry rendered)).member? "$defs" =
        if rendered = [] then none else some (.object rendered) := by
    intro front rendered hfront
    rw [Json.member?, OrderedMap.find?_append, OrderedMap.find?_eq_none_iff.mpr hfront]
    cases rendered <;> simp [definitionsEntry, OrderedMap.find?]
  cases hn with
  | leaf k d =>
      obtain rfl := Except.ok.inj h
      exact ⟨[], rfl, OrderedMap.find?_eq_none_iff.mpr (by simp [OrderedMap.keys])⟩
  | enum values d =>
      obtain rfl := Except.ok.inj h
      exact ⟨[], rfl, OrderedMap.find?_eq_none_iff.mpr (by simp [OrderedMap.keys])⟩
  | reference _ =>
      obtain rfl := Except.ok.inj h
      exact ⟨[], rfl, OrderedMap.find?_eq_none_iff.mpr (by simp [OrderedMap.keys])⟩
  | array items d definitions =>
      obtain ⟨body, rendered, -, hrendered, rfl⟩ := render_array_iff.mp h
      exact ⟨rendered, hrendered, hlast _ _ (by simp [OrderedMap.keys])⟩
  | object ps required d definitions =>
      obtain ⟨body, rendered, -, hrendered, rfl⟩ := render_object_iff.mp h
      exact ⟨rendered, hrendered, hlast _ _ (by simp [OrderedMap.keys])⟩

/-- A definition of the root of a tree is written among the definitions of the document. -/
theorem exists_definition (hn : Compiled ids n) (h : n.render strict = .ok doc) {key : String}
    (hkey : key ∈ OrderedMap.keys n.definitions) :
    ∃ defs target, doc.member? "$defs" = some (.object defs) ∧ (key, target) ∈ defs := by
  obtain ⟨rendered, hrendered, hdefs⟩ := definitions_of_render hn h
  rw [← keys_renderValues hrendered] at hkey
  obtain ⟨⟨key, target⟩, hmem, rfl⟩ := List.mem_map.mp hkey
  rw [if_neg (List.ne_nil_of_mem hmem)] at hdefs
  exact ⟨rendered, target, hdefs, hmem⟩

/-- The definitions of a document have the keys that the definitions of the root have. -/
theorem keys_definitions_of_render (hn : Compiled ids n) (h : n.render strict = .ok doc)
    {defs : List (String × Json)} (hdefs : doc.member? "$defs" = some (.object defs)) :
    OrderedMap.keys defs = OrderedMap.keys n.definitions := by
  obtain ⟨rendered, hrendered, hwritten⟩ := definitions_of_render hn h
  rw [hdefs] at hwritten
  split at hwritten
  · exact absurd hwritten (by simp)
  · obtain rfl := Json.object.inj (Option.some.inj hwritten)
    exact keys_renderValues hrendered

end Node

end TypeSchema
