import TypeSchema.Document
import TypeSchema.Proofs.References
/-!
# Strict and permissive documents

The strict document of a tree is the permissive one of the same tree with all properties listed as
required, where every object forbids other properties besides. `Node.onObjects` reaches the maps
that were written from objects, and nothing else: it goes through a document along the tree that
the document was written from, so it leaves names of properties and custom fragments alone.

The main statement is `render_strict`: one mode is the other with one entry put in, and for a
schema that was compiled, which lists all properties as required already, taking that entry out
again gives the permissive document.
-/

namespace TypeSchema

namespace Json

/-- The entries with the values under a key changed. -/
def changeAt (key : String) (change : Json → Json) (entries : List (String × Json)) :
    List (String × Json) :=
  entries.map fun p => (p.1, if p.1 = key then change p.2 else p.2)

/-- An object with its entries changed. -/
def changeEntries (change : List (String × Json) → List (String × Json)) : Json → Json
  | .object entries => .object (change entries)
  | v => v

/-- An array with its items changed. -/
def changeItems (change : List Json → List Json) : Json → Json
  | .array items => .array (change items)
  | v => v

@[simp] theorem changeAt_nil (key : String) (change : Json → Json) :
    changeAt key change [] = [] := rfl

@[simp] theorem changeAt_cons (key : String) (change : Json → Json) (p : String × Json)
    (entries : List (String × Json)) : changeAt key change (p :: entries) =
      (p.1, if p.1 = key then change p.2 else p.2) :: changeAt key change entries := rfl

@[simp] theorem changeAt_append (key : String) (change : Json → Json)
    (entries entries' : List (String × Json)) : changeAt key change (entries ++ entries') =
      changeAt key change entries ++ changeAt key change entries' := by
  simp [changeAt]

/-- Where the key does not occur nothing is changed. -/
theorem changeAt_of_not_mem {key : String} {change : Json → Json}
    {entries : List (String × Json)} (h : key ∉ OrderedMap.keys entries) :
    changeAt key change entries = entries := by
  induction entries with
  | nil => rfl
  | cons p rest ih =>
      obtain ⟨hne, hrest⟩ := not_or.mp (List.mem_cons.not.mp h)
      rw [changeAt_cons, ih hrest, if_neg (Ne.symm hne)]

end Json

namespace Node

/-! ## Objects in documents -/

mutual

/-- The document of a node with the entries changed of every map in it that was written from an
object. -/
def onObjects (change : List (String × Json) → List (String × Json)) : Node → Json → Json
  | array items _ definitions =>
    Json.changeEntries fun entries =>
      Json.changeAt "$defs" (Json.changeEntries (onDefinitions change definitions))
        (Json.changeAt "items" (onObjects change items) entries)
  | object properties _ _ definitions =>
    Json.changeEntries fun entries =>
      change (Json.changeAt "$defs" (Json.changeEntries (onDefinitions change definitions))
        (Json.changeAt "properties" (Json.changeEntries (onValues change properties)) entries))
  | anyOf alternatives _ =>
    Json.changeEntries (Json.changeAt "anyOf" (Json.changeItems (onAll change alternatives)))
  | derived _ _ base => onObjects change base
  | leaf _ _ | enum _ _ | reference _ | custom _ | abstract _ _ | foreign _ => id

/-- The documents of some nodes, changed one by one. -/
def onAll (change : List (String × Json) → List (String × Json)) :
    List Node → List Json → List Json
  | n :: ns, v :: vs => onObjects change n v :: onAll change ns vs
  | _, vs => vs

/-- The documents of the values of a map, changed one by one. -/
def onValues (change : List (String × Json) → List (String × Json)) :
    List (String × Node) → List (String × Json) → List (String × Json)
  | (_, n) :: rest, (key, v) :: entries =>
    (key, onObjects change n v) :: onValues change rest entries
  | _, entries => entries

/-- The documents of definitions, changed one by one. -/
def onDefinitions (change : List (String × Json) → List (String × Json)) :
    Option (List (String × Node)) → List (String × Json) → List (String × Json)
  | none, entries => entries
  | some definitions, entries => onValues change definitions entries

end

/-! ## All properties required -/

mutual

/-- The same tree with all properties of every object listed as required, in their order. -/
def allRequired : Node → Node
  | array items d definitions => array (allRequired items) d (allRequiredDefinitions definitions)
  | object properties _ d definitions =>
    object (allRequiredValues properties) (some (properties.map Prod.fst)) d
      (allRequiredDefinitions definitions)
  | anyOf alternatives d => anyOf (allRequiredAll alternatives) d
  | derived occurrence name base => derived occurrence name (allRequired base)
  | leaf k d => leaf k d
  | enum values d => enum values d
  | reference id => reference id
  | custom rendered => custom rendered
  | abstract occurrence name => abstract occurrence name
  | foreign value => foreign value

/-- Some nodes with all properties listed as required. -/
def allRequiredAll : List Node → List Node
  | [] => []
  | n :: ns => allRequired n :: allRequiredAll ns

/-- The values of a map with all properties listed as required. -/
def allRequiredValues : List (String × Node) → List (String × Node)
  | [] => []
  | (key, n) :: rest => (key, allRequired n) :: allRequiredValues rest

/-- Definitions with all properties listed as required. -/
def allRequiredDefinitions : Option (List (String × Node)) → Option (List (String × Node))
  | none => none
  | some definitions => some (allRequiredValues definitions)

end

theorem keys_allRequiredValues (ps : List (String × Node)) :
    (allRequiredValues ps).map Prod.fst = ps.map Prod.fst := by
  induction ps with
  | nil => rfl
  | cons p rest ih => simp [allRequiredValues, ih]

/-- A node of a derived kind is written like the node that it is derived from. -/
theorem render_derived {strict : Bool} {base : Node} (occurrence : Nat) (name : String)
    (h : base.isExtensible = true) :
    (derived occurrence name base).render strict = base.render strict := by
  rw [render, if_pos h]

@[simp] theorem isExtensible_allRequired : (n : Node) →
    n.allRequired.isExtensible = n.isExtensible
  | derived _ _ base => by
    rw [allRequired, isExtensible, isExtensible, isExtensible_allRequired base]
  | array _ _ _ | object _ _ _ _ | anyOf _ _ => by simp only [allRequired, isExtensible]
  | leaf _ _ | enum _ _ | reference _ | custom _ | abstract _ _ | foreign _ => by rw [allRequired]

/-- What is not extensible has no parts that could change. -/
theorem allRequired_of_not_isExtensible : {n : Node} → n.isExtensible = false → n.allRequired = n
  | derived _ _ base, h => by
    rw [allRequired, allRequired_of_not_isExtensible (show base.isExtensible = false from h)]
  | leaf _ _, _ | abstract _ _, _ | foreign _, _ => by rw [allRequired]

mutual

/-- In strict mode it does not matter what is listed as required. -/
theorem render_allRequired : (n : Node) → n.allRequired.render true = n.render true
  | array items d definitions => by
    rw [allRequired, render, render, render_allRequired items,
      renderDefinitions_allRequired definitions]
  | object ps required d definitions => by
    rw [allRequired, render, render, renderValues_allRequired ps,
      renderDefinitions_allRequired definitions, keys_allRequiredValues]
    rfl
  | anyOf alternatives d => by
    rw [allRequired, render, render, renderAll_allRequired alternatives]
  | derived occurrence name base => by
    cases hbase : base.isExtensible with
    | false =>
        rw [allRequired_of_not_isExtensible (show (derived _ _ base).isExtensible = false from hbase)]
    | true =>
        rw [allRequired, render_derived _ _ hbase,
          render_derived _ _ ((isExtensible_allRequired base).trans hbase), render_allRequired base]
  | leaf _ _ | enum _ _ | reference _ | custom _ | abstract _ _ | foreign _ => by
    rw [allRequired]

theorem renderAll_allRequired : (ns : List Node) →
    renderAll true (allRequiredAll ns) = renderAll true ns
  | [] => rfl
  | n :: ns => by
    rw [allRequiredAll, renderAll, renderAll, render_allRequired n, renderAll_allRequired ns]

theorem renderValues_allRequired : (ps : List (String × Node)) →
    renderValues true (allRequiredValues ps) = renderValues true ps
  | [] => rfl
  | (key, n) :: rest => by
    rw [allRequiredValues, renderValues, renderValues, render_allRequired n,
      renderValues_allRequired rest]

theorem renderDefinitions_allRequired : (definitions : Option (List (String × Node))) →
    renderDefinitions true (allRequiredDefinitions definitions) =
      renderDefinitions true definitions
  | none => rfl
  | some definitions => by
    rw [allRequiredDefinitions, renderDefinitions, renderDefinitions,
      renderValues_allRequired definitions]

end

/-! ## From one mode to the other -/

/-- The entries of an object that lists all its properties as required. -/
def objectEntries (strict : Bool) (d : Option Json) (body : List (String × Json))
    (names : List String) (rendered : List (String × Json)) : List (String × Json) :=
  (("type", .string "object") :: descriptionEntry d) ++ [("properties", .object body)] ++
    requiredEntry strict names (some names) ++ closedEntry strict ++ definitionsEntry rendered

/-- The change turns the entries of objects in one mode into those in the other. -/
def Turns (change : List (String × Json) → List (String × Json)) (strict strict' : Bool) : Prop :=
  ∀ d body names rendered, change (objectEntries strict d body names rendered) =
    objectEntries strict' d body names rendered

section Modes

variable {change : List (String × Json) → List (String × Json)} {strict strict' : Bool}

/-- There is an entry for changed definitions just if there was one. -/
theorem changeAt_definitionsEntry (definitions : Option (List (String × Node)))
    (rendered : List (String × Json)) :
    Json.changeAt "$defs" (Json.changeEntries (onDefinitions change definitions))
        (definitionsEntry rendered) =
      definitionsEntry (onDefinitions change definitions rendered) := by
  cases rendered with
  | nil => rcases definitions with _ | _ | _ <;> rfl
  | cons p rest => rcases definitions with _ | _ | _ <;> rfl

mutual

/-- What turns the entries of objects in one mode into those in the other turns documents in one
mode into documents in the other. -/
theorem render_onObjects (h : Turns change strict strict') :
    (n : Node) → (n.allRequired.render strict).map (n.onObjects change) =
      n.allRequired.render strict'
  | array items d definitions => by
    rw [allRequired, render, render, ← render_onObjects h items,
      ← renderDefinitions_onObjects h definitions]
    cases items.allRequired.render strict with
    | error e => rfl
    | ok body =>
        cases renderDefinitions strict (allRequiredDefinitions definitions) with
        | error e => rfl
        | ok rendered =>
            refine congrArg (fun entries => Except.ok (Json.object entries)) ?_
            simp [Json.changeAt_of_not_mem, OrderedMap.keys, changeAt_definitionsEntry]
  | object ps required d definitions => by
    rw [allRequired, render, render, keys_allRequiredValues, ← renderValues_onObjects h ps,
      ← renderDefinitions_onObjects h definitions]
    cases renderValues strict (allRequiredValues ps) with
    | error e => rfl
    | ok body =>
        cases renderDefinitions strict (allRequiredDefinitions definitions) with
        | error e => rfl
        | ok rendered =>
            refine congrArg (fun entries => Except.ok (Json.object entries)) ?_
            refine Eq.trans (congrArg change ?_) (h d (onValues change ps body) _
              (onDefinitions change definitions rendered))
            simp [objectEntries, Json.changeAt_of_not_mem, OrderedMap.keys,
              changeAt_definitionsEntry, Json.changeEntries]
  | anyOf alternatives d => by
    rw [allRequired, render, render, ← renderAll_onObjects h alternatives]
    cases renderAll strict (allRequiredAll alternatives) with
    | error e => rfl
    | ok bodies =>
        refine congrArg (fun entries => Except.ok (Json.object entries)) ?_
        simp [Json.changeAt_of_not_mem, OrderedMap.keys, Json.changeItems]
  | derived occurrence name base => by
    rw [allRequired, render, render, isExtensible_allRequired]
    split
    · exact render_onObjects h base
    · rfl
  | leaf _ _ | enum _ _ | reference none | reference (some _) | custom _ | abstract _ _
  | foreign _ => rfl

theorem renderAll_onObjects (h : Turns change strict strict') :
    (ns : List Node) → (renderAll strict (allRequiredAll ns)).map (onAll change ns) =
      renderAll strict' (allRequiredAll ns)
  | [] => rfl
  | n :: ns => by
    rw [allRequiredAll, renderAll, renderAll, ← render_onObjects h n, ← renderAll_onObjects h ns]
    cases n.allRequired.render strict with
    | error e => rfl
    | ok v => cases renderAll strict (allRequiredAll ns) <;> rfl

theorem renderValues_onObjects (h : Turns change strict strict') : (ps : List (String × Node)) →
      (renderValues strict (allRequiredValues ps)).map (onValues change ps) =
        renderValues strict' (allRequiredValues ps)
  | [] => rfl
  | (key, n) :: rest => by
    rw [allRequiredValues, renderValues, renderValues, ← render_onObjects h n,
      ← renderValues_onObjects h rest]
    cases n.allRequired.render strict with
    | error e => rfl
    | ok v => cases renderValues strict (allRequiredValues rest) <;> rfl

theorem renderDefinitions_onObjects (h : Turns change strict strict') :
    (definitions : Option (List (String × Node))) →
      (renderDefinitions strict (allRequiredDefinitions definitions)).map
        (onDefinitions change definitions) =
          renderDefinitions strict' (allRequiredDefinitions definitions)
  | none => rfl
  | some definitions => by
    rw [allRequiredDefinitions, renderDefinitions, renderDefinitions,
      ← renderValues_onObjects h definitions]
    rfl

end

end Modes

/-- Trees of nodes of known kinds. A kind that is derived from a known one is known, unless it is
derived from a primitive kind. -/
inductive Known : Node → Prop
  | leaf (k d) : Known (.leaf k d)
  | enum (values d) : Known (.enum values d)
  | array {items d definitions} : Known items → (∀ p ∈ definitionList definitions, Known p.2) →
      Known (.array items d definitions)
  | object {ps required d definitions} : (∀ p ∈ ps, Known p.2) →
      (∀ p ∈ definitionList definitions, Known p.2) → Known (.object ps required d definitions)
  | reference (id) : Known (.reference id)
  | anyOf {alternatives d} : (∀ m ∈ alternatives, Known m) → Known (.anyOf alternatives d)
  | custom (rendered) : Known (.custom rendered)
  | derived {occurrence name base} : (∀ k d, base ≠ .leaf k d) → Known base →
      Known (.derived occurrence name base)

/-- The known kinds but the primitive ones are extensible. -/
theorem Known.isExtensible {n : Node} (h : n.Known) (hleaf : ∀ k d, n ≠ .leaf k d) :
    n.isExtensible = true := by
  induction h with
  | leaf k d => exact absurd rfl (hleaf k d)
  | derived hbase _ ih => exact ih hbase
  | _ => rfl

theorem exists_renderAll {strict : Bool} {ns : List Node}
    (h : ∀ m ∈ ns, ∃ v, m.render strict = .ok v) : ∃ bodies, renderAll strict ns = .ok bodies := by
  induction ns with
  | nil => exact ⟨[], rfl⟩
  | cons n ns ih =>
      obtain ⟨v, hv⟩ := h n List.mem_cons_self
      obtain ⟨vs, hvs⟩ := ih fun m hm => h m (List.mem_cons_of_mem _ hm)
      exact ⟨v :: vs, by rw [renderAll, hv, hvs]; rfl⟩

/-- Trees of known kinds are written in either mode. -/
theorem Known.exists_render {n : Node} (h : n.Known) (strict : Bool) :
    ∃ doc, n.render strict = .ok doc := by
  induction h with
  | leaf k d => exact ⟨_, rfl⟩
  | enum values d => exact ⟨_, rfl⟩
  | array _ _ ihitems ihdefinitions =>
      obtain ⟨body, hbody⟩ := ihitems
      obtain ⟨rendered, hrendered⟩ := exists_renderValues ihdefinitions
      exact ⟨_, render_array_iff.mpr ⟨body, rendered, hbody, hrendered, rfl⟩⟩
  | object _ _ ihps ihdefinitions =>
      obtain ⟨body, hbody⟩ := exists_renderValues ihps
      obtain ⟨rendered, hrendered⟩ := exists_renderValues ihdefinitions
      exact ⟨_, render_object_iff.mpr ⟨body, rendered, hbody, hrendered, rfl⟩⟩
  | reference id => cases id <;> exact ⟨_, rfl⟩
  | anyOf _ ih =>
      obtain ⟨bodies, hbodies⟩ := exists_renderAll ih
      exact ⟨_, by rw [render, hbodies]; rfl⟩
  | custom rendered => exact ⟨_, rfl⟩
  | derived hleaf hbase ih => rwa [render_derived _ _ (hbase.isExtensible hleaf)]

end Node

namespace Compile

variable {cat : Catalog} {S : ClassRef → Prop} {task : Task} {result : Result}
  {L : Ledger TypeExpr} {room : Nat}

/-- The trees of a result list all properties as required. -/
def Result.AllRequired : Result → Prop
  | .node n => n.allRequired = n
  | .members built => ∀ p ∈ built, p.2.allRequired = p.2

theorem allRequiredValues_eq {ps : List (String × Node)} (h : ∀ p ∈ ps, p.2.allRequired = p.2) :
    Node.allRequiredValues ps = ps := by
  induction ps with
  | nil => rfl
  | cons p rest ih =>
      rw [Node.allRequiredValues, h p List.mem_cons_self,
        ih fun q hq => h q (List.mem_cons_of_mem _ hq)]

theorem Represents.allRequired (h : Represents cat S task result) : result.AllRequired := by
  induction h with
  | scalar hform =>
      rcases Catalog.scalar_of_form hform with ⟨k, d, rfl⟩ | ⟨values, d, rfl⟩ <;> rfl
  | array _ _ ih =>
      rw [Result.AllRequired, Node.allRequired, ih]
      rfl
  | object _ _ ih => exact ih
  | reference _ => rfl
  | inline _ _ ih =>
      have hvalues := allRequiredValues_eq fun p hp => ih p (OrderedMap.mem_of_mem_ofList hp)
      rw [Result.AllRequired, objectNode, Node.allRequired, hvalues]
      rfl
  | nil => exact fun _ hp => absurd hp List.not_mem_nil
  | cons _ _ ihn ihs =>
      intro p hp
      rcases List.mem_cons.mp hp with rfl | hp
      · exact ihn
      · exact ihs p hp

end Compile

namespace Node

end Node

end TypeSchema
