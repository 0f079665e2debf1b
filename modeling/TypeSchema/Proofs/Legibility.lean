import TypeSchema.Proofs.MetaSchema
import TypeSchema.Proofs.Positions
/-!
# Reading documents back

A permissive document tells what it was written from. `Node.ofDocument?` reads it back: the keys of
a document say of which kind the node was, and the values under them what its parts were, whatever
their order. What cannot be told apart is left out of `Node.Legible`: a custom fragment may look
like the document of any node, a node of a derived kind is written like the one that it is derived
from, and an empty map of definitions is written like none.

The main statement is `render_legible`: reading undoes writing, and so two trees that have the same
document are the same.
-/

namespace TypeSchema

/-- The primitive kind of a name. -/
def LeafKind.ofName? : String → Option LeafKind
  | "string" => some .string
  | "integer" => some .integer
  | "number" => some .number
  | "boolean" => some .boolean
  | _ => none

@[simp] theorem LeafKind.ofName?_name (k : LeafKind) : ofName? k.name = some k := by
  cases k <;> rfl

theorem LeafKind.name_ne_array (k : LeafKind) : k.name ≠ "array" := by cases k <;> decide

theorem LeafKind.name_ne_object (k : LeafKind) : k.name ≠ "object" := by cases k <;> decide

namespace Node

open Json (lookup_pair_cons)

/-! ## The reader -/

/-- The text that a value is. -/
def textOf? : Json → Option String
  | .string s => some s
  | _ => none

/-- The texts that a value lists. -/
def textsOf? : Json → Option (List String)
  | .array items => Json.asTexts? items
  | _ => none

@[simp] theorem textsOf?_ofStrings (names : List String) :
    textsOf? (.ofStrings names) = some names :=
  Json.asTexts?_map names

@[simp] theorem bind_textsOf? (listed : Option (List String)) :
    (listed.map .ofStrings).bind textsOf? = listed := by
  cases listed <;> simp

/-- What the value under a key of a document may be read as: a node, nodes in a row, or nodes by
name. -/
structure Reading where
  value : Json
  node : Option Node
  nodes : Option (List Node)
  values : Option (List (String × Node))

/-- What is read under the keys of a document. -/
abbrev Readings := List (String × Reading)

namespace Readings

variable (parts : Readings)

/-- The value of the description. -/
def description : Option Json := (parts.lookup "description").map Reading.value

/-- The names of the required properties, if they are listed. -/
def required : Option (List String) := (parts.lookup "required").bind (textsOf? ∘ Reading.value)

/-- The nodes of the definitions. -/
def definitions : Option (List (String × Node)) := (parts.lookup "$defs").bind Reading.values

/-- The node of a document of a type. -/
def typed? (type : String) : Option Node :=
  if type = "object" then
    ((parts.lookup "properties").bind Reading.values).map fun properties =>
      .object properties parts.required parts.description parts.definitions
  else if type = "array" then
    ((parts.lookup "items").bind Reading.node).map fun items =>
      .array items parts.description parts.definitions
  else match parts.lookup "enum" with
    | some r => (textsOf? r.value).map fun values => .enum values parts.description
    | none => (LeafKind.ofName? type).map fun k => .leaf k parts.description

/-- The node of a document without a type: alternatives, or a reference. -/
def untyped? : Option Node :=
  match parts.lookup "anyOf", parts.lookup "$ref" with
  | some r, _ => r.nodes.map fun alternatives => .anyOf alternatives parts.description
  | none, some r => (textOf? r.value).map fun target =>
    .reference (some (String.ofList (target.toList.drop referenceStart.length)))
  | none, none => some (.reference none)

/-- The node of a document. -/
def node? : Option Node :=
  match parts.lookup "type" with
  | some r => (textOf? r.value).bind parts.typed?
  | none => parts.untyped?

end Readings

mutual

/-- The node that a document was written from. -/
def ofDocument? : Json → Option Node
  | .object members => (readings members).node?
  | _ => none

/-- What the values under some keys are read as. -/
def readings : List (String × Json) → Readings
  | [] => []
  | (key, value) :: rest =>
    (key, ⟨value, ofDocument? value, ofItems? value, ofMembers? value⟩) :: readings rest

/-- The nodes that an array of documents was written from. -/
def ofItems? : Json → Option (List Node)
  | .array items => ofAll? items
  | _ => none

/-- The nodes that a map of documents was written from. -/
def ofMembers? : Json → Option (List (String × Node))
  | .object members => ofValues? members
  | _ => none

/-- The nodes that some documents were written from. -/
def ofAll? : List Json → Option (List Node)
  | [] => some []
  | v :: vs => do return (← ofDocument? v) :: (← ofAll? vs)

/-- The nodes that the values of a map were written from, under the same keys. -/
def ofValues? : List (String × Json) → Option (List (String × Node))
  | [] => some []
  | (key, v) :: rest => do return (key, ← ofDocument? v) :: (← ofValues? rest)

end

/-! ## What is read by key -/

/-- What one value is read as. -/
def reading (v : Json) : Reading := ⟨v, ofDocument? v, ofItems? v, ofMembers? v⟩

section Keys

variable (members : List (String × Json))

@[simp] theorem lookup_readings (key : String) :
    (readings members).lookup key = (members.lookup key).map reading := by
  induction members with
  | nil => rw [readings]; rfl
  | cons m members ih =>
      rw [readings, lookup_pair_cons, lookup_pair_cons, ih]
      split <;> rfl

@[simp] theorem readings_description :
    (readings members).description = members.lookup "description" := by
  rw [Readings.description, lookup_readings, Option.map_map]
  exact Option.map_id_apply

@[simp] theorem readings_required :
    (readings members).required = (members.lookup "required").bind textsOf? := by
  rw [Readings.required, lookup_readings, Option.bind_map]
  rfl

@[simp] theorem readings_definitions :
    (readings members).definitions = (members.lookup "$defs").bind ofMembers? := by
  rw [Readings.definitions, lookup_readings, Option.bind_map]
  rfl

variable {members}

theorem ofDocument?_typed {type : String} (h : members.lookup "type" = some (.string type)) :
    ofDocument? (.object members) = (readings members).typed? type := by
  rw [ofDocument?, Readings.node?, lookup_readings, h]
  rfl

theorem ofDocument?_untyped (h : members.lookup "type" = none) :
    ofDocument? (.object members) = (readings members).untyped? := by
  rw [ofDocument?, Readings.node?, lookup_readings, h]
  rfl

end Keys

@[simp] theorem lookup_descriptionEntry (d : Option Json) (key : String) :
    (descriptionEntry d).lookup key = if key = "description" then d else none := by
  cases d <;> simp [descriptionEntry, lookup_pair_cons]

@[simp] theorem lookup_requiredEntry (names : List String) (required : Option (List String))
    (key : String) : (requiredEntry false names required).lookup key =
      if key = "required" then required.map .ofStrings else none := by
  cases required <;> simp [requiredEntry, lookup_pair_cons]

@[simp] theorem lookup_definitionsEntry_of_ne {key : String} (bodies : List (String × Json))
    (hkey : key ≠ "$defs") : (definitionsEntry bodies).lookup key = none := by
  cases bodies <;> simp [definitionsEntry, lookup_pair_cons, hkey]

/-! ## Trees that can be read back -/

/-- Trees of nodes of the known kinds themselves, without custom fragments, where definitions are
left out if there are none. -/
inductive Legible : Node → Prop
  | leaf (k d) : Legible (.leaf k d)
  | enum (values d) : Legible (.enum values d)
  | array {items d definitions} : Legible items → definitions ≠ some [] →
      (∀ p ∈ definitionList definitions, Legible p.2) → Legible (.array items d definitions)
  | object {ps required d definitions} : (∀ p ∈ ps, Legible p.2) → definitions ≠ some [] →
      (∀ p ∈ definitionList definitions, Legible p.2) → Legible (.object ps required d definitions)
  | reference (id) : Legible (.reference id)
  | anyOf {alternatives d} : (∀ m ∈ alternatives, Legible m) → Legible (.anyOf alternatives d)

/-- A tree has a document from which it is read back. -/
def ReadsBack (n : Node) : Prop := ∃ doc, n.render false = .ok doc ∧ ofDocument? doc = some n

theorem exists_renderValues_ofValues? {ps : List (String × Node)} (h : ∀ p ∈ ps, p.2.ReadsBack) :
    ∃ bodies, renderValues false ps = .ok bodies ∧ ofValues? bodies = some ps := by
  induction ps with
  | nil => exact ⟨[], rfl, by rw [ofValues?]⟩
  | cons p ps ih =>
      obtain ⟨v, hv, hread⟩ := h p List.mem_cons_self
      obtain ⟨vs, hvs, hreads⟩ := ih fun q hq => h q (List.mem_cons_of_mem _ hq)
      refine ⟨(p.1, v) :: vs, renderValues_cons_iff.mpr ⟨v, vs, hv, hvs, rfl⟩, ?_⟩
      rw [ofValues?, hread, hreads]
      rfl

theorem exists_renderAll_ofAll? {ns : List Node} (h : ∀ m ∈ ns, m.ReadsBack) :
    ∃ bodies, renderAll false ns = .ok bodies ∧ ofAll? bodies = some ns := by
  induction ns with
  | nil => exact ⟨[], rfl, by rw [ofAll?]⟩
  | cons n ns ih =>
      obtain ⟨v, hv, hread⟩ := h n List.mem_cons_self
      obtain ⟨vs, hvs, hreads⟩ := ih fun m hm => h m (List.mem_cons_of_mem _ hm)
      refine ⟨v :: vs, ?_, ?_⟩
      · rw [renderAll, hv, hvs]
        rfl
      · rw [ofAll?, hread, hreads]
        rfl

/-- Definitions are read back under their key, unless the map of them is empty. -/
theorem exists_renderValues_definitions {definitions : Option (List (String × Node))}
    (hne : definitions ≠ some []) (h : ∀ p ∈ definitionList definitions, p.2.ReadsBack) :
    ∃ bodies, renderValues false (definitionList definitions) = .ok bodies ∧
      ((definitionsEntry bodies).lookup "$defs").bind ofMembers? = definitions := by
  cases definitions with
  | none => exact ⟨[], rfl, rfl⟩
  | some ds =>
      obtain ⟨bodies, hbodies, hread⟩ := exists_renderValues_ofValues? h
      refine ⟨bodies, hbodies, ?_⟩
      cases bodies with
      | nil =>
          rw [ofValues?, Option.some.injEq] at hread
          exact absurd (congrArg some hread.symm) hne
      | cons b bodies =>
          rw [definitionsEntry, lookup_pair_cons, if_pos rfl, Option.bind_some, ofMembers?]
          · exact hread
          · simp

theorem drop_referenceStart (id : String) :
    String.ofList ((referenceStart.toList ++ id.toList).drop referenceStart.length) = id := by
  rw [List.drop_left' String.length_toList, String.ofList_toList]

/-- Legible trees are read back. -/
theorem Legible.readsBack {n : Node} (h : n.Legible) : n.ReadsBack := by
  -- The reader looks at the type of a document first. References and alternatives have none.
  induction h with
  | leaf k d =>
      refine ⟨_, rfl, ?_⟩
      rw [ofDocument?_typed rfl]
      simp [Readings.typed?, lookup_pair_cons, LeafKind.name_ne_array, LeafKind.name_ne_object]
  | enum values d =>
      refine ⟨_, rfl, ?_⟩
      rw [ofDocument?_typed rfl]
      simp [Readings.typed?, List.lookup_append, lookup_pair_cons, reading]
  | array _ hne _ ihitems ihdefinitions =>
      obtain ⟨body, hbody, hread⟩ := ihitems
      obtain ⟨bodies, hbodies, hreads⟩ := exists_renderValues_definitions hne ihdefinitions
      refine ⟨_, render_array_iff.mpr ⟨body, bodies, hbody, hbodies, rfl⟩, ?_⟩
      rw [ofDocument?_typed rfl]
      simp [Readings.typed?, List.lookup_append, lookup_pair_cons, reading, hread, hreads]
  | object _ hne _ ihps ihdefinitions =>
      obtain ⟨body, hbody, hread⟩ := exists_renderValues_ofValues? ihps
      obtain ⟨bodies, hbodies, hreads⟩ := exists_renderValues_definitions hne ihdefinitions
      refine ⟨_, render_object_iff.mpr ⟨body, bodies, hbody, hbodies, rfl⟩, ?_⟩
      rw [ofDocument?_typed rfl]
      simp [Readings.typed?, List.lookup_append, lookup_pair_cons, closedEntry, reading, ofMembers?,
        hread, hreads]
  | reference id =>
      cases id with
      | none =>
          refine ⟨_, rfl, ?_⟩
          rw [ofDocument?_untyped rfl]
          simp [Readings.untyped?]
      | some id =>
          refine ⟨_, rfl, ?_⟩
          rw [ofDocument?_untyped rfl]
          simp [Readings.untyped?, lookup_pair_cons, reading, textOf?, drop_referenceStart]
  | anyOf _ ih =>
      obtain ⟨bodies, hbodies, hread⟩ := exists_renderAll_ofAll? ih
      refine ⟨_, by rw [render, hbodies]; rfl, ?_⟩
      rw [ofDocument?_untyped (by simp [List.lookup_append, lookup_pair_cons])]
      simp [Readings.untyped?, List.lookup_append, lookup_pair_cons, reading, ofItems?, hread]

/-- A legible tree is read back from its permissive document, and so two such trees have the same
document only if they are the same, part for part. -/
theorem render_legible {t u : Node} (ht : t.Legible) (hu : u.Legible) :
    (∃ doc, t.render false = .ok doc ∧ ofDocument? doc = some t) ∧
      (t.render false = u.render false ↔ t = u) := by
  refine ⟨ht.readsBack, fun heq => ?_, fun heq => heq ▸ rfl⟩
  obtain ⟨doc, hdoc, hread⟩ := ht.readsBack
  obtain ⟨other, hother, hreadother⟩ := hu.readsBack
  obtain rfl : doc = other := Except.ok.inj (hdoc.symm.trans (heq.trans hother))
  exact Option.some.inj (hread.symm.trans hreadother)

/-- A tree with nodes of every legible kind. -/
def album (required : Option (List String)) : Node :=
  .object
    [("title", .leaf .string (some (.string "On the spine"))), ("format", .enum ["lp", "cd"] none),
      ("tracks", .array (.reference (some "track")) none none), ("cover", .reference none)]
    required none
    (some [("track", .anyOf [.leaf .integer none, .leaf .string none] none)])

theorem legible_album (required : Option (List String)) : (album required).Legible := by
  refine .object ?_ (by simp) ?_
  · simp only [List.forall_mem_cons]
    exact ⟨.leaf _ _, .enum _ _, .array (.reference _) (by simp) (by simp [definitionList]),
      .reference _, by simp⟩
  · simp only [definitionList, Option.getD_some, List.forall_mem_cons]
    refine ⟨.anyOf ?_, by simp⟩
    simp only [List.forall_mem_cons]
    exact ⟨.leaf _ _, .leaf _ _, by simp⟩

/-- Required properties that are not listed and an empty list of them are told apart. -/
theorem render_album_required :
    (∃ doc, (album none).render false = .ok doc ∧ ofDocument? doc = some (album none)) ∧
      (album none).render false ≠ (album (some [])).render false := by
  obtain ⟨hread, hiff⟩ := render_legible (legible_album none) (legible_album (some []))
  exact ⟨hread, fun heq => by simpa [album] using hiff.mp heq⟩

end Node

end TypeSchema
