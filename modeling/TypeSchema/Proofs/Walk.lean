import TypeSchema.Proofs.Positions
/-!
# Walks and documents

The walk of a tree and the writer of its document are two recursions over the same nodes, each with
its own idea of what the parts of a node are. `Json.parts` says what the parts of a document are:
what stands at the schema positions directly below it, in the order in which they are written. One
layer of the writer turns the children of a node into the parts of its document
(`renderAll_children`), and so the walk of a tree becomes the list of the documents inside its
document.

The main statement is `render_walk`: the writer stops at the first node of the walk that is of no
known kind, and if there is none, the documents inside what it writes are those of the walk.
-/

namespace TypeSchema

/-! ## Documents inside a document -/

namespace Json

/-- What stands at schema positions under a key. -/
def partsUnder (key : String) (v : Json) : List Json :=
  if key = "items" then [v]
  else
    match v with
    | .object members => if key = "properties" ∨ key = "$defs" then members.map Prod.snd else []
    | .array vs => if key = "anyOf" then vs else []
    | _ => []

/-- What stands at schema positions under the keys of some members, in their order. -/
def partsOf (members : List (String × Json)) : List Json :=
  members.flatMap fun p => partsUnder p.1 p.2

/-- What stands at the schema positions directly below a document, in the order of the document. -/
def parts : Json → List Json
  | .object members => partsOf members
  | _ => []

@[simp] theorem partsOf_nil : partsOf [] = [] := rfl

@[simp] theorem partsOf_cons (p : String × Json) (members : List (String × Json)) :
    partsOf (p :: members) = partsUnder p.1 p.2 ++ partsOf members := rfl

@[simp] theorem partsOf_append (members members' : List (String × Json)) :
    partsOf (members ++ members') = partsOf members ++ partsOf members' :=
  List.flatMap_append

theorem part_of_mem_partsUnder {members : List (String × Json)} {key : String} {v w : Json}
    (hmem : (key, v) ∈ members) (hw : w ∈ partsUnder key v) : (object members).Part w := by
  by_cases hitems : key = "items"
  · obtain rfl := hitems
    obtain rfl := List.mem_singleton.mp hw
    exact .items hmem
  unfold partsUnder at hw
  rw [if_neg hitems] at hw
  cases v with
  | object ps =>
      dsimp only at hw
      split at hw
      · next hkey =>
        obtain ⟨⟨k, u⟩, hu, rfl⟩ := List.mem_map.mp hw
        rcases hkey with rfl | rfl
        · exact .property hmem hu
        · exact .definition hmem hu
      · exact absurd hw List.not_mem_nil
  | array vs =>
      dsimp only at hw
      split at hw
      · next hkey =>
        obtain rfl := hkey
        exact .alternative hmem hw
      · exact absurd hw List.not_mem_nil
  | _ => exact absurd hw List.not_mem_nil

/-- The parts of a document are what stands at a schema position directly below it. -/
theorem mem_parts_iff {v w : Json} : w ∈ v.parts ↔ v.Part w := by
  constructor
  · intro h
    cases v with
    | object members =>
        obtain ⟨p, hmem, hw⟩ := List.mem_flatMap.mp h
        exact part_of_mem_partsUnder hmem hw
    | _ => simp [parts] at h
  · intro h
    cases h with
    | items hmem => exact List.mem_flatMap.mpr ⟨_, hmem, by simp [partsUnder]⟩
    | property hmem hv | definition hmem hv =>
        exact List.mem_flatMap.mpr ⟨_, hmem, by simpa [partsUnder] using ⟨_, hv⟩⟩
    | alternative hmem hv => exact List.mem_flatMap.mpr ⟨_, hmem, by simpa [partsUnder] using hv⟩

/-- A document and all documents inside it, each before its parts. -/
def schemas (v : Json) : List Json :=
  v :: v.parts.attach.flatMap fun w => schemas w.1
termination_by sizeOf v
decreasing_by exact (mem_parts_iff.mp w.2).sizeOf_lt

theorem schemas_eq (v : Json) : v.schemas = v :: v.parts.flatMap schemas := by
  rw [schemas]
  simp

/-- The documents inside a document are those that stand at its schema positions. -/
theorem mem_schemas_iff {v w : Json} : w ∈ v.schemas ↔ v.HasSchema w := by
  constructor
  · induction hsize : sizeOf v using Nat.strongRecOn generalizing v with
    | ind size ih =>
        intro h
        rw [schemas_eq, List.mem_cons, List.mem_flatMap] at h
        rcases h with rfl | ⟨u, hu, hw⟩
        · exact .refl
        · have hpart := mem_parts_iff.mp hu
          exact .head hpart (ih _ (hsize ▸ hpart.sizeOf_lt) rfl hw)
  · intro h
    induction h using Relation.ReflTransGen.head_induction_on with
    | refl =>
        rw [schemas_eq]
        exact List.mem_cons_self
    | head hpart _ ih =>
        rw [schemas_eq]
        exact List.mem_cons_of_mem _ (List.mem_flatMap.mpr ⟨_, mem_parts_iff.mpr hpart, ih⟩)

end Json

namespace Node

/-! ## Kinds of nodes -/

/-- Whether the kind of a node is known to the writer. Nothing is said about its parts. -/
def isKnown : Node → Bool
  | derived _ _ base => base.isExtensible
  | abstract _ _ | foreign _ => false
  | leaf _ _ | enum _ _ | array _ _ _ | object _ _ _ _ | reference _ | anyOf _ _ | custom _ => true

/-- Whether a node is written as the fragment that it holds. -/
def isCustom : Node → Bool
  | derived _ _ base => base.isCustom
  | custom _ => true
  | leaf _ _ | enum _ _ | array _ _ _ | object _ _ _ _ | reference _ | anyOf _ _ | abstract _ _
  | foreign _ => false

theorem isKnown_of_isExtensible : {n : Node} → n.isExtensible = true → n.isKnown = true
  | derived _ _ _, h => h
  | enum _ _, _ | array _ _ _, _ | object _ _ _ _, _ | reference _, _ | anyOf _ _, _
  | custom _, _ => rfl

variable {strict : Bool}

/-! ## Lists of nodes -/

theorem renderAll_cons_iff {n : Node} {ns : List Node} {bodies : List Json} :
    renderAll strict (n :: ns) = .ok bodies ↔
      ∃ v vs, n.render strict = .ok v ∧ renderAll strict ns = .ok vs ∧ bodies = v :: vs := by
  rw [renderAll]
  exact combine_eq_ok_iff

theorem renderAll_append (ns ms : List Node) :
    renderAll strict (ns ++ ms) = do
      let vs ← renderAll strict ns
      let ws ← renderAll strict ms
      return vs ++ ws := by
  induction ns with
  | nil =>
      rw [List.nil_append, renderAll]
      cases renderAll strict ms <;> rfl
  | cons n ns ih =>
      rw [List.cons_append, renderAll, renderAll, ih]
      cases n.render strict with
      | error e => rfl
      | ok v =>
          cases renderAll strict ns with
          | error e => rfl
          | ok vs => cases renderAll strict ms <;> rfl

/-- The values of a map are written like a list. -/
theorem renderAll_values (ps : List (String × Node)) :
    renderAll strict (ps.map Prod.snd) = (renderValues strict ps).map (List.map Prod.snd) := by
  induction ps with
  | nil => rfl
  | cons p ps ih =>
      rw [List.map_cons, renderAll, renderValues, ih]
      cases p.2.render strict with
      | error e => rfl
      | ok v => cases renderValues strict ps <;> rfl

/-! ## One layer of the writer -/

@[simp] theorem partsOf_descriptionEntry (d : Option Json) :
    Json.partsOf (descriptionEntry d) = [] := by
  cases d with
  | none => rfl
  | some v => cases v <;> rfl

@[simp] theorem partsOf_requiredEntry (names : List String) (required : Option (List String)) :
    Json.partsOf (requiredEntry strict names required) = [] := by
  unfold requiredEntry
  split <;> rfl

@[simp] theorem partsOf_closedEntry : Json.partsOf (closedEntry strict) = [] := by
  cases strict <;> rfl

@[simp] theorem partsOf_definitionsEntry (rendered : List (String × Json)) :
    Json.partsOf (definitionsEntry rendered) = rendered.map Prod.snd := by
  cases rendered <;> simp [definitionsEntry, Json.partsUnder]

/-- The writer turns the children of a node of a known kind into the parts of its document. It fails
where a child fails. -/
theorem renderAll_children : {n : Node} → n.isKnown = true → n.isCustom = false →
    renderAll strict n.children = (n.render strict).map Json.parts
  | leaf k d, _, _ => by
    simp [children, render, renderAll, Except.map, Json.parts, Json.partsUnder]
  | enum values d, _, _ => by
    simp [children, render, renderAll, Except.map, Json.parts, Json.partsUnder, Json.ofStrings]
  | array items d definitions, _, _ => by
    rw [children, renderAll, renderAll_values, render, renderDefinitions_eq]
    cases items.render strict with
    | error e => rfl
    | ok body =>
        cases renderValues strict (definitionList definitions) with
        | error e => rfl
        | ok rendered =>
            simp [bind, Except.bind, pure, Except.pure, Except.map, Json.parts, Json.partsUnder]
  | object ps required d definitions, _, _ => by
    rw [children, renderAll_append, renderAll_values, renderAll_values, render,
      renderDefinitions_eq]
    cases renderValues strict ps with
    | error e => rfl
    | ok body =>
        cases renderValues strict (definitionList definitions) with
        | error e => rfl
        | ok rendered =>
            simp [bind, Except.bind, pure, Except.pure, Except.map, Json.parts, Json.partsUnder]
  | reference none, _, _ => rfl
  | reference (some id), _, _ => rfl
  | anyOf alternatives d, _, _ => by
    rw [children, render]
    cases renderAll strict alternatives with
    | error e => rfl
    | ok bodies =>
        simp [bind, Except.bind, pure, Except.pure, Except.map, Json.parts, Json.partsUnder]
  | derived occurrence name base, hknown, hcustom => by
    rw [children, render, if_pos (show base.isExtensible = true from hknown)]
    exact renderAll_children (isKnown_of_isExtensible hknown) hcustom

/-- A node of an unknown kind is the failure itself. -/
theorem render_of_not_isKnown : {n : Node} → n.isKnown = false → n.render strict = .error n
  | derived occurrence name base, h => by
    rw [render, if_neg (ne_true_of_eq_false (show base.isExtensible = false from h))]
  | abstract _ _, _ | foreign _, _ => by rw [render]

/-- A custom node has no children, and is written. -/
theorem exists_render_of_isCustom (strict : Bool) : {n : Node} → n.isCustom = true →
    n.isExtensible = true ∧ n.children = [] ∧ ∃ doc, n.render strict = .ok doc
  | custom rendered, _ => ⟨rfl, rfl, _, rfl⟩
  | derived occurrence name base, h => by
    obtain ⟨hextensible, hchildren, doc, hdoc⟩ :=
      exists_render_of_isCustom strict (show base.isCustom = true from h)
    exact ⟨hextensible, hchildren, doc, by rw [render, if_pos hextensible, hdoc]⟩

/-- A node of a known kind fails only where one of its children does. -/
theorem render_eq_error_iff_children {n u : Node} (hknown : n.isKnown = true) :
    n.render strict = .error u ↔ renderAll strict n.children = .error u := by
  cases hcustom : n.isCustom with
  | false =>
      rw [renderAll_children hknown hcustom]
      cases n.render strict <;> simp [Except.map]
  | true =>
      obtain ⟨-, hchildren, doc, hdoc⟩ := exists_render_of_isCustom strict hcustom
      simp [hchildren, hdoc, renderAll]

/-! ## The walk -/

/-- The first of some nodes that is of no known kind. -/
def firstUnknown? (ns : List Node) : Option Node := ns.find? fun m => !m.isKnown

/-- Of some nodes the first that fails is the failure of all. -/
theorem renderAll_eq_error_iff {ns : List Node} {u : Node}
    (h : ∀ n ∈ ns, ∀ u, n.render strict = .error u ↔ firstUnknown? n.walk = some u) :
    renderAll strict ns = .error u ↔ firstUnknown? (ns.flatMap walk) = some u := by
  induction ns with
  | nil => simp [renderAll, firstUnknown?]
  | cons n ns ih =>
      have hrest := ih fun m hm => h m (List.mem_cons_of_mem _ hm)
      rw [renderAll, firstUnknown?, List.flatMap_cons, List.find?_append, ← firstUnknown?,
        ← firstUnknown?]
      cases hn : n.render strict with
      | error e =>
          rw [(h n List.mem_cons_self e).mp hn]
          simp [bind, Except.bind]
      | ok v =>
          have hknown : firstUnknown? n.walk = none := by
            rw [Option.eq_none_iff_forall_ne_some]
            intro e he
            exact absurd (hn.symm.trans ((h n List.mem_cons_self e).mpr he)) (by simp)
          rw [hknown, Option.none_or, ← hrest]
          cases renderAll strict ns <;> simp [bind, Except.bind, pure, Except.pure]

/-- The writer fails at the first node of the walk that is of no known kind. -/
theorem render_eq_error_iff {n u : Node} :
    n.render strict = .error u ↔ firstUnknown? n.walk = some u := by
  induction n using childInduction generalizing u with
  | step n ih =>
      -- The node is the first of its walk, and the walks of its children follow.
      rw [walk_eq, firstUnknown?]
      cases hknown : n.isKnown with
      | false =>
          rw [List.find?_cons_of_pos (by simp [hknown]), render_of_not_isKnown hknown]
          simp
      | true =>
          rw [List.find?_cons_of_neg (by simp [hknown]), render_eq_error_iff_children hknown]
          exact renderAll_eq_error_iff fun c hc u => ih c hc

/-- The walks of some nodes are written as the documents inside their documents. -/
theorem renderAll_flatMap_walk {ns : List Node} {vs : List Json}
    (h : ∀ n ∈ ns, ∀ v, n.render strict = .ok v → renderAll strict n.walk = .ok v.schemas)
    (hvs : renderAll strict ns = .ok vs) :
    renderAll strict (ns.flatMap walk) = .ok (vs.flatMap Json.schemas) := by
  induction ns generalizing vs with
  | nil =>
      obtain rfl := Except.ok.inj hvs
      rfl
  | cons n ns ih =>
      obtain ⟨v, rest, hv, hrest, rfl⟩ := renderAll_cons_iff.mp hvs
      rw [List.flatMap_cons, renderAll_append, h n List.mem_cons_self v hv,
        ih (fun m hm => h m (List.mem_cons_of_mem _ hm)) hrest]
      rfl

/-- Without custom nodes, the walk of a tree is written as the documents inside its document. -/
theorem renderAll_walk {n : Node} {doc : Json} (hcustom : ∀ m ∈ n.walk, m.isCustom = false)
    (h : n.render strict = .ok doc) : renderAll strict n.walk = .ok doc.schemas := by
  induction n using childInduction generalizing doc with
  | step n ih =>
      have hknown : n.isKnown = true := by
        by_contra hunknown
        rw [render_of_not_isKnown (eq_false_of_ne_true hunknown)] at h
        exact absurd h (by simp)
      -- The parts of the document are what the children are written as, one by one.
      have hparts : renderAll strict n.children = .ok doc.parts := by
        rw [renderAll_children hknown (hcustom n (mem_walk_self n)), h]
        rfl
      have hrest : renderAll strict (n.children.flatMap walk) =
          .ok (doc.parts.flatMap Json.schemas) :=
        renderAll_flatMap_walk (fun c hc v hv => ih c hc (fun m hm => hcustom m (by
          rw [walk_eq]
          exact List.mem_cons_of_mem _ (List.mem_flatMap.mpr ⟨c, hc, hm⟩))) hv) hparts
      rw [walk_eq, Json.schemas_eq, renderAll, h, hrest]
      rfl

/-- The walk of a tree and the writer of its document see the same nodes. -/
theorem render_walk (n : Node) (strict : Bool) :
    (∀ u, n.render strict = .error u ↔ firstUnknown? n.walk = some u) ∧
    ((∀ m ∈ n.walk, m.isKnown = true) → ∃ doc, n.render strict = .ok doc ∧
      ((∀ m ∈ n.walk, m.isCustom = false) → renderAll strict n.walk = .ok doc.schemas)) := by
  refine ⟨fun u => render_eq_error_iff, fun hknown => ?_⟩
  cases h : n.render strict with
  | error u =>
      have hu := render_eq_error_iff.mp h
      have hunknown := List.find?_some hu
      simp [hknown u (List.mem_of_find?_eq_some hu)] at hunknown
  | ok doc => exact ⟨doc, rfl, fun hcustom => renderAll_walk hcustom h⟩

/-- An array with a definition, whose items are of one of two kinds. The second kind is derived from
that of objects. -/
def alternating : Node :=
  .array (.anyOf [.leaf .string none,
      .derived 0 "Wide" (.object [("to", .reference (some "t"))] none none (some []))] none)
    none (some [("t", .enum ["near", "far"] (some (.string "Where it goes")))])

/-- The array, its items, the two alternatives, the reference and the definition are written one
inside the other. Below a node that is derived from a text nothing is written. -/
theorem render_walk_alternating :
    (∃ doc, alternating.render true = .ok doc ∧ alternating.walk.length = 6 ∧
      renderAll true alternating.walk = .ok doc.schemas) ∧
    (Node.array (.derived 1 "Short" (.leaf .string none)) none none).render false =
      .error (.derived 1 "Short" (.leaf .string none)) := by
  have hknown : ∀ m ∈ alternating.walk, m.isKnown = true := by decide
  have hcustom : ∀ m ∈ alternating.walk, m.isCustom = false := by decide
  obtain ⟨doc, hdoc, hschemas⟩ := (render_walk alternating true).2 hknown
  exact ⟨⟨doc, hdoc, rfl, hschemas hcustom⟩, ((render_walk _ false).1 _).mpr rfl⟩

end Node

end TypeSchema
