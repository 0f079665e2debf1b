import TypeSchema.Proofs.Compile.Calls
import TypeSchema.Proofs.Cycles
import TypeSchema.Proofs.References
/-!
# The objects of a schema

`cat.Makes limit t c e ps` says that the compilation of a type makes the object of a class, with a
description and properties. What is made is what is visited (`mem_visited_iff_makes`), and what the
schema shows is what was made: each object in it, also in the definitions and also where one is
handed out again, is the object of some class (`makes_of_mem_walk`). So it is with the other nodes,
each of which is that of some form or a reference (`Builds.arises`).
-/

namespace TypeSchema

namespace Compile

/-! ## Nodes in trees -/

/-- The nodes that come about on the way from a call: those of forms, those of objects that are
made, and references. -/
inductive Arises (cat : Catalog) (x : Call) : Node → Prop
  | scalar {room L t given n} : Reached cat x ⟨room, L, .type t given⟩ →
      cat.form t given = .ok (.scalar n) → Arises cat x n
  | array {room L t given item d} (n) : Reached cat x ⟨room, L, .type t given⟩ →
      cat.form t given = .ok (.array item d) → Arises cat x (.array n d none)
  | object {c d built} : Makes cat x c d built → Arises cat x (objectNode cat c d built)
  | reference (id) : Arises cat x (.reference id)

variable {cat : Catalog} {L L' : Ledger TypeExpr} {room : Nat} {task : Task} {result : Result}
  {x : Call}

/-- An object that comes about is made. -/
theorem Arises.made {ps : List (String × Node)} {required : Option (List String)}
    {d : Option Json} {ds : Option (List (String × Node))}
    (h : Arises cat x (.object ps required d ds)) : ∃ c e built, Makes cat x c e built ∧
      Node.object ps required d ds = objectNode cat c e built := by
  generalize hn : Node.object ps required d ds = n at h
  cases h with
  | scalar _ hform =>
      rcases Catalog.scalar_of_form hform with ⟨k, e, rfl⟩ | ⟨values, e, rfl⟩ <;>
        exact absurd hn (by simp)
  | array _ _ _ => exact absurd hn (by simp)
  | object hmade => exact ⟨_, _, _, hmade, rfl⟩
  | reference _ => exact absurd hn (by simp)

/-- The nodes in the trees that a ledger holds. -/
def trees (L : Ledger TypeExpr) : List Node := L.arena.flatMap Node.walk

/-- What a ledger hands out comes about on the way, if everything in its trees does. -/
theorem arises_node (h : ∀ n ∈ trees L, Arises cat x n) (e : Entry) :
    ∀ n ∈ (L.node e).walk, Arises cat x n := by
  intro n hn
  cases hslot : L.arena[e.slot]? with
  | some m =>
      rw [Ledger.node, List.getD_eq_getElem?_getD, hslot, Option.getD_some] at hn
      exact h n (List.mem_flatMap.mpr ⟨m, List.mem_of_getElem? hslot, hn⟩)
  | none =>
      rw [Ledger.node, List.getD_eq_getElem?_getD, hslot, Option.getD_none] at hn
      obtain rfl := List.mem_singleton.mp hn
      exact .reference _

theorem arises_opened {c : ClassRef} (h : ∀ n ∈ trees L, Arises cat x n) :
    ∀ n ∈ trees (opened cat c L), Arises cat x n := by
  intro n hn
  rw [trees, arena_opened, List.flatMap_append, List.mem_append] at hn
  rcases hn with hn | hn
  · exact h n hn
  · obtain rfl : n = .reference _ := by simpa [Node.walk, Node.descendants] using hn
    exact .reference _

theorem arises_store {m : Node} (h : ∀ n ∈ trees L, Arises cat x n)
    (hm : ∀ n ∈ m.walk, Arises cat x n) (e : Entry) :
    ∀ n ∈ trees (L.store e m), Arises cat x n := by
  intro n hn
  obtain ⟨m', hm', hwalk⟩ := List.mem_flatMap.mp hn
  rcases List.mem_or_eq_of_mem_set hm' with hm' | rfl
  · exact h n (List.mem_flatMap.mpr ⟨m', hm', hwalk⟩)
  · exact hm n hwalk

/-- Everything in the trees of a call on the way comes about on the way, and so does everything in
the ledger that the call leaves. -/
theorem Builds.arises (h : Builds cat room L task result L') (hx : Reached cat x ⟨room, L, task⟩)
    (hL : ∀ n ∈ trees L, Arises cat x n) :
    (∀ n ∈ trees L', Arises cat x n) ∧ ∀ n ∈ result.walk, Arises cat x n := by
  -- What the ledger holds is part of the statement, since it is handed out again.
  induction h with
  | scalar hform =>
      refine ⟨hL, fun n hn => ?_⟩
      rcases Catalog.scalar_of_form hform with ⟨k, d, rfl⟩ | ⟨values, d, rfl⟩ <;>
        exact List.mem_singleton.mp hn ▸ .scalar hx hform
  | array hform _ ih =>
      obtain ⟨hL', hitem⟩ := ih (hx.tail (.array hform)) hL
      refine ⟨hL', fun n hn => ?_⟩
      rcases mem_walk_array_iff.mp hn with rfl | hn
      · exact .array _ hx hform
      · exact hitem n hn
  | object hform _ ih => exact ih (hx.tail (.object hform)) hL
  | placeholder _ _ _ =>
      refine ⟨?_, arises_node hL _⟩
      rw [trees, Ledger.arena_setRecursive]
      exact hL
  | reuse _ _ _ => exact ⟨hL, arises_node hL _⟩
  | @fresh _ _ _ c d _ built hnew hfields hbuilt ih =>
      obtain ⟨hL₁, hmembers⟩ := ih (hx.tail (.fresh hnew hfields)) (arises_opened hL)
      have hobject : ∀ n ∈ (objectNode cat c d built).walk, Arises cat x n := by
        intro n hn
        rcases mem_walk_objectNode_iff.mp hn with rfl | ⟨p, hp, hn⟩
        · exact .object (.intro hx hnew hfields hbuilt)
        · exact hmembers n (mem_walk_members_iff.mpr ⟨p, OrderedMap.mem_of_mem_ofList hp, hn⟩)
      exact ⟨arises_store hL₁ hobject _, hobject⟩
  | nil => exact ⟨hL, fun _ hn => absurd hn List.not_mem_nil⟩
  | cons hn _ ihn ihs =>
      obtain ⟨hL₁, hhead⟩ := ihn (hx.tail .head) hL
      obtain ⟨hL', htail⟩ := ihs (hx.tail (.tail hn)) hL₁
      exact ⟨hL', List.forall_mem_append.mpr ⟨hhead, htail⟩⟩

/-- Everything in the tree of a root but the root itself comes about on the way, and so does the
node that the root is made of. -/
theorem Builds.arises_rooted {t : TypeExpr} {given : Option Json} {m : Node}
    (h : Builds cat room .empty (.type t given) (.node m) L) :
    Arises cat ⟨room, .empty, .type t given⟩ m ∧
      ∀ n ∈ (rooted L m).walk, n = rooted L m ∨ Arises cat ⟨room, .empty, .type t given⟩ n := by
  obtain ⟨htrees, hroot⟩ := h.arises .refl fun _ hn => absurd hn List.not_mem_nil
  refine ⟨hroot m (Node.mem_walk_self m), fun n hn => ?_⟩
  rw [h.walk_rooted, List.mem_cons, List.mem_append, Node.walkValues_eq, List.flatMap_map,
    List.mem_flatMap] at hn
  refine hn.imp_right (Or.elim · (fun hn => hroot n (List.mem_cons_of_mem _ hn)) ?_)
  rintro ⟨p, hp, hn⟩
  obtain ⟨e, -, rfl⟩ := List.mem_map.mp (OrderedMap.mem_of_mem_ofList hp)
  exact arises_node htrees e n hn

/-- What is built to an object has the form of an object. -/
theorem Builds.form_of_object {t : TypeExpr} {given d : Option Json} {ps : List (String × Node)}
    {required : Option (List String)} {ds : Option (List (String × Node))}
    (h : Builds cat room L (.type t given) (.node (.object ps required d ds)) L') :
    ∃ c e, cat.form t given = .ok (.object c e) := by
  generalize hn : Node.object ps required d ds = n at h
  cases h with
  | scalar hform =>
      rcases Catalog.scalar_of_form hform with ⟨_, _, rfl⟩ | ⟨_, _, rfl⟩ <;>
        exact absurd hn (by simp)
  | array _ _ => exact absurd hn (by simp)
  | object hform _ => exact ⟨_, _, hform⟩

/-- Where nothing was visited before, the node of a class is its new object. -/
theorem Builds.made_root {t : TypeExpr} {given e : Option Json} {c : ClassRef} {m : Node}
    (h : Builds cat (room + 1) .empty (.type t given) (.node m) L)
    (hform : cat.form t given = .ok (.object c e)) :
    ∃ built, m = objectNode cat c e built ∧
      Makes cat ⟨room + 1, .empty, .type t given⟩ c e built := by
  have hnew : cat.isCustom c = true → Ledger.empty.get? c.toExpr = none := fun _ => rfl
  obtain ⟨fields, built, L₁, hfields, hbuilt, hm, -⟩ :=
    (h.of_object hform).of_fresh hnew
  exact ⟨built, Result.node.inj hm, .intro (.single (.object hform)) hnew hfields hbuilt⟩

end Compile

namespace Catalog

open Compile

/-- The compilation of a type makes the object of a class, with a description, which may be
missing, and properties. -/
def Makes (cat : Catalog) (limit : Int) (t : TypeExpr) (c : ClassRef) (e : Option Json)
    (ps : List (String × Node)) : Prop :=
  ∃ built, Compile.Makes cat ⟨limit.toNat + 1, .empty, .type t none⟩ c e built ∧
    ps = OrderedMap.ofList built

variable {cat : Catalog} {limit : Int} {t : TypeExpr} {n : Node} {c : ClassRef}

/-- The classes that are visited are those whose objects are made. -/
theorem mem_visited_iff_makes (h : cat.build limit t = .ok n) :
    c ∈ visited (cat.visits limit t) ↔ ∃ e ps, cat.Makes limit t c e ps := by
  obtain ⟨-, m, hm, -⟩ := build_builds h
  rw [mem_visited_iff, ← Ledger.mem_keys_iff]
  constructor
  · intro hc
    rcases hm.made hc with hc | ⟨e, built, hmade⟩
    · exact absurd (Ledger.mem_keys_iff.mp hc) (by simp)
    · exact ⟨e, _, built, hmade, rfl⟩
  · rintro ⟨e, _, built, hmade, rfl⟩
    exact hmade.mem_keys hm .empty

/-- Each object in a schema is the object of a class. -/
theorem makes_of_mem_walk (h : cat.build limit t = .ok n) {ps : List (String × Node)}
    {required : Option (List String)} {d : Option Json} {ds : Option (List (String × Node))}
    (hmem : .object ps required d ds ∈ n.walk) :
    ∃ c e, cat.Makes limit t c e ps ∧ d = withFallback cat e c.toExpr := by
  obtain ⟨-, m, hm, rfl⟩ := build_builds h
  obtain ⟨hroot, hbelow⟩ := hm.arises_rooted
  -- The root differs from the node it is made of in its definitions only.
  have hmade : ∃ ds', Arises cat ⟨limit.toNat + 1, .empty, .type t none⟩
      (.object ps required d ds') := by
    rcases hbelow _ hmem with hself | harises
    · exact ⟨none, hm.of_rooted_object hself ▸ hroot⟩
    · exact ⟨ds, harises⟩
  obtain ⟨ds', harises⟩ := hmade
  obtain ⟨c, e, built, hmakes, hobject⟩ := harises.made
  obtain ⟨rfl, -, rfl, -⟩ := Node.object.inj hobject
  exact ⟨c, e, ⟨built, hmakes, rfl⟩, rfl⟩

/-- The root of a class is its object. -/
theorem makes_root (h : cat.build limit t = .ok n) {e : Option Json}
    (hform : cat.form t none = .ok (.object c e)) :
    ∃ ps required d ds, n = .object ps required d ds ∧ cat.Makes limit t c e ps := by
  obtain ⟨-, m, hm, rfl⟩ := build_builds h
  obtain ⟨built, rfl, hmade⟩ := hm.made_root hform
  obtain ⟨ds, hrooted, -⟩ := rooted_object _ _ _ _
  exact ⟨_, _, _, ds, hrooted, built, hmade, rfl⟩

/-- The class, the data members and the entry behind an object at the root. -/
structure RootedIn (cat : Catalog) (limit : Int) (t : TypeExpr) (root : Node) (c : ClassRef)
    (fields : List SchemaField) (e : Entry) : Prop where
  form : ∃ given, cat.form t none = .ok (.object c given)
  fields : cat.fieldsOf c = .ok fields
  entry : (cat.visits limit t).get? c.toExpr = some e
  /-- If the class is met again below itself, this is the key of its definition. -/
  defined : e.recursive = true → e.id ∈ OrderedMap.keys root.definitions

theorem exists_rootedIn (h : cat.build limit t = .ok (.object ps required d ds)) :
    ∃ c fields e, cat.RootedIn limit t (.object ps required d ds) c fields e ∧
      e.id = cat.referenceId c.toExpr ∧ ∃ built : List (String × Node),
        OrderedMap.keys built = fields.map (·.name) ∧ ps = OrderedMap.ofList built := by
  obtain ⟨-, m, hm, hroot⟩ := build_builds h
  obtain ⟨hsound, -, -⟩ := hm.sound .empty
  have hdefinitions := hroot ▸ hm.definitions_rooted
  obtain rfl := hm.of_rooted_object hroot
  obtain ⟨c, given, hform⟩ := hm.form_of_object
  have hnew : cat.isCustom c = true → Ledger.empty.get? c.toExpr = none := fun _ => rfl
  obtain ⟨fields, built, L₁, hfields, hbuilt, hobject, -⟩ := (hm.of_object hform).of_fresh hnew
  obtain ⟨rfl, -⟩ := Node.object.inj (Result.node.inj hobject)
  have hkey : c.toExpr ∈ (cat.visits limit t).keys := by
    obtain ⟨_, hm', hmade⟩ := hm.made_root hform
    exact hmade.mem_keys hm .empty
  obtain ⟨e, he⟩ := Ledger.mem_keys_iff.mp hkey
  refine ⟨c, fields, e, ⟨⟨given, hform⟩, hfields, he, fun hflag => ?_⟩, hsound.id_eq he, built,
    hbuilt.keys_members, rfl⟩
  rw [hdefinitions, hsound.id_eq he]
  exact hsound.mem_keys_definitions ⟨e, he, hflag⟩

end Catalog

end TypeSchema
