import TypeSchema.Proofs.Compile.Root
/-!
# Expansions

A type can be written out level by level without ever remembering a class: `Catalog.expand` looks
at the form of the expression, and builds every data member of a class each time it meets the
class. It has no ledger, and goes on for as many levels as it is asked for. `Node.expand` reads
the same tree off a finished schema, going through the definitions at every reference.

The main statement is `build_expand`: both come to the same, however many levels are written out.
Neither breaking cycles nor using finished nodes again changes what a schema says.
-/

namespace TypeSchema

/-- What a schema says down to some level. An object has no description here, since the
description of a class depends on where the class was met first. -/
inductive Expansion where
  /-- The levels end here. -/
  | cut
  /-- A node without parts. -/
  | scalar (n : Node)
  | array (items : Expansion) (description : Option Json)
  | object (properties : List (String × Expansion)) (required : Option (List String))
  /-- A reference to nothing, or a node that no type has. -/
  | unknown

namespace Node

/-- The node that a node stands for: a reference stands for its definition. -/
def resolve (definitions : List (String × Node)) : Node → Option Node
  | .reference id => id.bind (OrderedMap.find? · definitions)
  | n => some n

/-- What a node says down to a level, with references read through the definitions. -/
def expand (definitions : List (String × Node)) : Nat → Node → Expansion
  | 0, _ => .cut
  | k + 1, n =>
    match n.resolve definitions with
    | some (.leaf kind d) => .scalar (.leaf kind d)
    | some (.enum values d) => .scalar (.enum values d)
    | some (.array items d _) => .array (expand definitions k items) d
    | some (.object properties required _ _) =>
      .object (properties.map (Prod.map id (expand definitions k))) required
    | _ => .unknown

/-- Definitions that are attached to a node do not change what it says. -/
theorem expand_rooted (ds : List (String × Node)) (L : Ledger TypeExpr) (m : Node) (k : Nat) :
    (Compile.rooted L m).expand ds k = m.expand ds k := by
  unfold Compile.rooted
  split
  · rfl
  · cases k with
    | zero => rfl
    | succ k =>
        cases m with
        | derived occurrence name base =>
            simp only [withDefinitions?]
            cases base.withDefinitions? _ <;> rfl
        | _ => rfl

end Node

namespace Catalog

/-- What a type says down to a level, without a ledger. -/
def expand (cat : Catalog) : Nat → TypeExpr → Option Json → Option Expansion
  | 0, _, _ => some .cut
  | k + 1, t, given =>
    match cat.form t given with
    | .error _ => none
    | .ok (.scalar n) => some (.scalar n)
    | .ok (.array item d) => do return .array (← expand cat k item none) d
    | .ok (.object c _) =>
      match cat.fieldsOf c with
      | .error _ => none
      | .ok fields => do
        let built ← fields.mapM fun f => do return (f.name, ← expand cat k f.type f.description)
        let properties := OrderedMap.ofList built
        return .object properties (some (OrderedMap.keys properties))

end Catalog

namespace Compile

variable {cat : Catalog} {S : ClassRef → Prop} {ds : List (String × Node)}

/-- The definitions that references to classes of `S` are read through. -/
def Defines (cat : Catalog) (S : ClassRef → Prop) (ds : List (String × Node)) : Prop :=
  ∀ c, S c → ∃ d fields built, cat.fieldsOf c = .ok fields ∧
    Represents cat S (.members fields) (.members built) ∧
    OrderedMap.find? (cat.referenceId c.toExpr) ds = some (objectNode cat c d built)

/-- Behind the node of a class stands an object of the class, in place or as a definition. -/
theorem Represents.resolve (hds : Defines cat S ds) {c : ClassRef} {d : Option Json} {n : Node}
    (h : Represents cat S (.object c d) (.node n)) :
    ∃ e fields built, cat.fieldsOf c = .ok fields ∧
      Represents cat S (.members fields) (.members built) ∧
      n.resolve ds = some (objectNode cat c e built) := by
  cases h with
  | reference hc => exact hds c hc
  | inline hfields hbuilt => exact ⟨_, _, _, hfields, hbuilt, rfl⟩

/-- Members are written out one by one. -/
theorem Represents.expand_members {k : Nat}
    (hstep : ∀ {t given n}, Represents cat S (.type t given) (.node n) →
      cat.expand k t given = some (n.expand ds k))
    {fields : List SchemaField} {built : List (String × Node)}
    (h : Represents cat S (.members fields) (.members built)) :
    fields.mapM (fun f => do return (f.name, ← cat.expand k f.type f.description)) =
      some (built.map (Prod.map id (Node.expand ds k))) := by
  induction fields generalizing built with
  | nil =>
      cases h
      rfl
  | cons f fields ih =>
      cases h with
      | cons hn hbuilt =>
          rw [List.mapM_cons, hstep hn, ih hbuilt]
          rfl

/-- A node that represents a type says what the type says. -/
theorem Represents.expand (hds : Defines cat S ds) {t : TypeExpr} {given : Option Json} {n : Node}
    (h : Represents cat S (.type t given) (.node n)) (k : Nat) :
    cat.expand k t given = some (n.expand ds k) := by
  -- The induction is on the levels: what stands behind a reference is no smaller than the node.
  induction k generalizing t given n with
  | zero => rfl
  | succ k ih =>
      cases h with
      | scalar hform =>
          rcases Catalog.scalar_of_form hform with ⟨kind, d, rfl⟩ | ⟨values, d, rfl⟩
          · simp [Catalog.expand, hform, Node.expand, Node.resolve]
          · simp [Catalog.expand, hform, Node.expand, Node.resolve]
      | array hform hitem =>
          simp [Catalog.expand, hform, ih hitem, Node.expand, Node.resolve]
      | object hform hobject =>
          obtain ⟨e, fields, built, hfields, hbuilt, hnode⟩ := hobject.resolve hds
          have hmembers := hbuilt.expand_members ih
          have hkeys : OrderedMap.keys ((OrderedMap.ofList built).map
              (Prod.map id (Node.expand ds k))) = OrderedMap.keys (OrderedMap.ofList built) := by
            simp [OrderedMap.keys]
          simp only [Catalog.expand, hform, hfields, hmembers, Node.expand, hnode, objectNode]
          simp [OrderedMap.ofList_map, hkeys]

/-- Where no two flagged classes share an identifier, each is found under its own. -/
theorem Complete.defines {L : Ledger TypeExpr} (h : Complete cat L)
    (hids : (L.recursiveEntries.map (·.id)).Nodup) : Defines cat (Flagged L) L.definitions := by
  intro c hc
  cases hfind : OrderedMap.find? (cat.referenceId c.toExpr) L.definitions with
  | none =>
      exact absurd (h.sound.mem_keys_definitions hc) (OrderedMap.find?_eq_none_iff.mp hfind)
  | some m =>
      obtain ⟨c', hc', hid, hfinished⟩ := h.of_mem_definitions (OrderedMap.mem_of_find? hfind)
      obtain rfl := h.sound.eq_of_referenceId hids hc hc' hid
      obtain ⟨d, fields, built, hfields, rfl, hbuilt⟩ := hfinished
      exact ⟨d, fields, built, hfields, hbuilt, rfl⟩

end Compile

namespace Catalog

variable {cat : Catalog} {limit : Int} {t : TypeExpr} {n : Node}

/-- A finished schema says what its type says, down to every level: references and finished nodes
that are used again stand for what would have been built in their place. -/
theorem build_expand (h : cat.build limit t = .ok n)
    (hids : ((cat.visits limit t).recursiveEntries.map (·.id)).Nodup) (k : Nat) :
    cat.expand k t none = some (n.expand n.definitions k) := by
  obtain ⟨-, m, hm, rfl⟩ := build_builds h
  obtain ⟨-, -, hrepresents⟩ := hm.sound .empty
  rw [hm.definitions_rooted, Node.expand_rooted]
  exact hrepresents.expand (hm.complete.defines hids) k

theorem build_expand_households :
    ∃ n, households.build 8 (ClassRef.declared 0).toExpr = .ok n ∧ n.definitions.length = 2 ∧
      households.expand 5 (ClassRef.declared 0).toExpr none = some (n.expand n.definitions 5) := by
  obtain ⟨n, hn, hlength⟩ := exists_build_households
  exact ⟨n, hn, hlength, build_expand hn (by decide +kernel) 5⟩

end Catalog

end TypeSchema
