import TypeSchema.Proofs.Compile.Form
import TypeSchema.Proofs.Compile.Run
import TypeSchema.Proofs.Ledger
/-!
# Derivations of compiled nodes

`Builds cat room L task result L'` says how a compilation that succeeds came about: with `room`
levels left and the ledger `L`, the task has the result and leaves `L'`. There is one rule for
each thing the compiler can do, and no rule mentions an error or a place in the program, so the
invariants of compilations are proved by induction on derivations.

A class is handled by one of three rules: its node is handed out as a placeholder, which marks
it (`placeholder`); it is finished and handed out again (`reuse`); or it is built (`fresh`).

The main statement is `build_builds`: a compilation that succeeds has a derivation.
-/

namespace TypeSchema

namespace Compile

/-- What is to be compiled. -/
inductive Task where
  | type (t : TypeExpr) (given : Option Json)
  | object (c : ClassRef) (description : Option Json)
  /-- The data members of a class, in order. -/
  | members (fields : List SchemaField)

/-- What a task comes to. -/
inductive Result where
  | node (n : Node)
  /-- The nodes of data members by their names, repetitions included. -/
  | members (built : List (String × Node))

/-- The object node of a class whose members were built. -/
def objectNode (cat : Catalog) (c : ClassRef) (description : Option Json)
    (built : List (String × Node)) : Node :=
  .object (OrderedMap.ofList built) (some (OrderedMap.keys (OrderedMap.ofList built)))
    (withFallback cat description c.toExpr) none

/-- The ledger in which a class has just been registered. -/
def opened (cat : Catalog) (c : ClassRef) (L : Ledger TypeExpr) : Ledger TypeExpr :=
  (L.register c.toExpr (cat.referenceId c.toExpr)).1

/-- The entry that a class gets when it is registered. -/
def newEntry (cat : Catalog) (c : ClassRef) (L : Ledger TypeExpr) : Entry :=
  ⟨L.arena.length, cat.referenceId c.toExpr, false⟩

/-- The derivations of successful compilations. -/
inductive Builds (cat : Catalog) :
    Nat → Ledger TypeExpr → Task → Result → Ledger TypeExpr → Prop
  | scalar {room L t given n} : cat.form t given = .ok (.scalar n) →
      Builds cat (room + 1) L (.type t given) (.node n) L
  | array {room L L' t given item d n} : cat.form t given = .ok (.array item d) →
      Builds cat room L (.type item none) (.node n) L' →
      Builds cat (room + 1) L (.type t given) (.node (.array n d none)) L'
  | object {room L L' t given c d n} : cat.form t given = .ok (.object c d) →
      Builds cat room L (.object c d) (.node n) L' →
      Builds cat (room + 1) L (.type t given) (.node n) L'
  /-- A class of the program is met under construction. -/
  | placeholder {room L c d e} : cat.isCustom c = true → L.get? c.toExpr = some e →
      isReference (L.node e) = true →
      Builds cat room L (.object c d) (.node (L.node e)) (L.setRecursive c.toExpr true)
  /-- A class of the program is met when it is finished. -/
  | reuse {room L c d e} : cat.isCustom c = true → L.get? c.toExpr = some e →
      isReference (L.node e) = false → Builds cat room L (.object c d) (.node (L.node e)) L
  /-- A class is built: one of the program the first time, one of the language each time. -/
  | fresh {room L L' c d fields built} :
      (cat.isCustom c = true → L.get? c.toExpr = none) → cat.fieldsOf c = .ok fields →
      Builds cat room (opened cat c L) (.members fields) (.members built) L' →
      Builds cat room L (.object c d) (.node (objectNode cat c d built))
        (L'.store (newEntry cat c L) (objectNode cat c d built))
  | nil {room L} : Builds cat room L (.members []) (.members []) L
  | cons {room L L₁ L' f fields n built} :
      Builds cat room L (.type f.type f.description) (.node n) L₁ →
      Builds cat room L₁ (.members fields) (.members built) L' →
      Builds cat room L (.members (f :: fields)) (.members ((f.name, n) :: built)) L'

variable {cat : Catalog} {L L' : Ledger TypeExpr}

theorem Builds.of_scalar {room : Nat} {t : TypeExpr} {given : Option Json} {n : Node} {r : Result}
    (h : Builds cat (room + 1) L (.type t given) r L')
    (hform : cat.form t given = .ok (.scalar n)) : r = .node n ∧ L' = L := by
  cases h with
  | scalar hform' =>
      obtain rfl := Form.scalar.inj (Except.ok.inj (hform.symm.trans hform'))
      exact ⟨rfl, rfl⟩
  | array hform' _ => exact absurd (hform.symm.trans hform') (by simp)
  | object hform' _ => exact absurd (hform.symm.trans hform') (by simp)

/-- A type expression with the form of an array is built by building the item. -/
theorem Builds.of_array {room : Nat} {t item : TypeExpr} {given d : Option Json} {r : Result}
    (h : Builds cat (room + 1) L (.type t given) r L')
    (hform : cat.form t given = .ok (.array item d)) :
    ∃ n, r = .node (.array n d none) ∧ Builds cat room L (.type item none) (.node n) L' := by
  cases h with
  | scalar hform' => exact absurd (hform.symm.trans hform') (by simp)
  | array hform' hitem =>
      obtain ⟨rfl, rfl⟩ := Form.array.inj (Except.ok.inj (hform.symm.trans hform'))
      exact ⟨_, rfl, hitem⟩
  | object hform' _ => exact absurd (hform.symm.trans hform') (by simp)

/-- A type expression with the form of an object is built like the class. -/
theorem Builds.of_object {room : Nat} {t : TypeExpr} {c : ClassRef} {given d : Option Json}
    {r : Result} (h : Builds cat (room + 1) L (.type t given) r L')
    (hform : cat.form t given = .ok (.object c d)) : Builds cat room L (.object c d) r L' := by
  cases h with
  | scalar hform' => exact absurd (hform.symm.trans hform') (by simp)
  | array hform' _ => exact absurd (hform.symm.trans hform') (by simp)
  | object hform' hobject =>
      obtain ⟨rfl, rfl⟩ := Form.object.inj (Except.ok.inj (hform.symm.trans hform'))
      exact hobject

/-- A class that the ledger knows comes to its node. It is flagged if it is under construction. -/
theorem Builds.of_known {room : Nat} {c : ClassRef} {d : Option Json} {e : Entry} {r : Result}
    (h : Builds cat room L (.object c d) r L') (hcustom : cat.isCustom c = true)
    (he : L.get? c.toExpr = some e) : r = .node (L.node e) ∧
      L' = if isReference (L.node e) = true then L.setRecursive c.toExpr true else L := by
  cases h with
  | placeholder _ he' href =>
      obtain rfl := Option.some.inj (he.symm.trans he')
      exact ⟨rfl, (if_pos href).symm⟩
  | reuse _ he' href =>
      obtain rfl := Option.some.inj (he.symm.trans he')
      exact ⟨rfl, (if_neg (ne_true_of_eq_false href)).symm⟩
  | fresh hnew _ _ => exact absurd ((hnew hcustom).symm.trans he) (by simp)

/-- A class that the ledger does not hand out is built from its data members. -/
theorem Builds.of_fresh {room : Nat} {c : ClassRef} {d : Option Json} {r : Result}
    (h : Builds cat room L (.object c d) r L')
    (hnew : cat.isCustom c = true → L.get? c.toExpr = none) :
    ∃ fields built L₁, cat.fieldsOf c = .ok fields ∧
      Builds cat room (opened cat c L) (.members fields) (.members built) L₁ ∧
      r = .node (objectNode cat c d built) ∧
      L' = L₁.store (newEntry cat c L) (objectNode cat c d built) := by
  cases h with
  | placeholder hcustom he _ => exact absurd ((hnew hcustom).symm.trans he) (by simp)
  | reuse hcustom he _ => exact absurd ((hnew hcustom).symm.trans he) (by simp)
  | fresh _ hfields hbuilt => exact ⟨_, _, _, hfields, hbuilt, rfl, rfl⟩

/-- A task has one result at most, and leaves one ledger. -/
theorem Builds.unique {room : Nat} {task : Task} {r r' : Result} {L'' : Ledger TypeExpr}
    (h : Builds cat room L task r L') (h' : Builds cat room L task r' L'') :
    r = r' ∧ L' = L'' := by
  induction h generalizing r' L'' with
  | scalar hform =>
      obtain ⟨rfl, rfl⟩ := h'.of_scalar hform
      exact ⟨rfl, rfl⟩
  | array hform _ ih =>
      obtain ⟨n, rfl, hitem⟩ := h'.of_array hform
      obtain ⟨hn, rfl⟩ := ih hitem
      obtain rfl := Result.node.inj hn
      exact ⟨rfl, rfl⟩
  | object hform _ ih => exact ih (h'.of_object hform)
  | placeholder hcustom he href =>
      obtain ⟨rfl, rfl⟩ := h'.of_known hcustom he
      exact ⟨rfl, (if_pos href).symm⟩
  | reuse hcustom he href =>
      obtain ⟨rfl, rfl⟩ := h'.of_known hcustom he
      exact ⟨rfl, (if_neg (ne_true_of_eq_false href)).symm⟩
  | fresh hnew hfields _ ih =>
      obtain ⟨_, built, L₁, hfields', hbuilt, rfl, rfl⟩ := h'.of_fresh hnew
      obtain rfl := Except.ok.inj (hfields.symm.trans hfields')
      obtain ⟨hmembers, rfl⟩ := ih hbuilt
      obtain rfl := Result.members.inj hmembers
      exact ⟨rfl, rfl⟩
  | nil =>
      cases h'
      exact ⟨rfl, rfl⟩
  | cons _ _ ihn ihs =>
      cases h' with
      | cons hn' hbuilt' =>
          obtain ⟨hn, rfl⟩ := ihn hn'
          obtain rfl := Result.node.inj hn
          obtain ⟨hmembers, rfl⟩ := ihs hbuilt'
          obtain rfl := Result.members.inj hmembers
          exact ⟨rfl, rfl⟩

/-- With more room a task comes to the same and leaves the same ledger. -/
theorem Builds.mono {room room' : Nat} {task : Task} {result : Result}
    (h : Builds cat room L task result L') (hroom : room ≤ room') :
    Builds cat room' L task result L' := by
  induction h generalizing room' with
  | scalar hform =>
      obtain ⟨k, rfl⟩ := Nat.exists_eq_add_of_lt hroom
      exact .scalar hform
  | array hform _ ih =>
      obtain ⟨k, rfl⟩ := Nat.exists_eq_add_of_lt hroom
      exact .array hform (ih (Nat.le_add_right _ k))
  | object hform _ ih =>
      obtain ⟨k, rfl⟩ := Nat.exists_eq_add_of_lt hroom
      exact .object hform (ih (Nat.le_add_right _ k))
  | placeholder hcustom he href => exact .placeholder hcustom he href
  | reuse hcustom he href => exact .reuse hcustom he href
  | fresh hnew hfields _ ih => exact .fresh hnew hfields (ih hroom)
  | nil => exact .nil
  | cons _ _ ihn ihs => exact .cons (ihn hroom) (ihs hroom)

/-- The room does not matter for what a task comes to. -/
theorem Builds.unique_of_rooms {room room' : Nat} {task : Task} {r r' : Result}
    {L'' : Ledger TypeExpr} (h : Builds cat room L task r L')
    (h' : Builds cat room' L task r' L'') : r = r' ∧ L' = L'' :=
  (h.mono (Nat.le_max_left room room')).unique (h'.mono (Nat.le_max_right room room'))

/-- Members are built under their names. -/
theorem Builds.keys_members {room : Nat} {fields : List SchemaField}
    {built : List (String × Node)}
    (h : Builds cat room L (.members fields) (.members built) L') :
    OrderedMap.keys built = fields.map (·.name) := by
  induction fields generalizing built L with
  | nil =>
      cases h
      rfl
  | cons f fields ih =>
      cases h with
      | cons _ hbuilt => rw [OrderedMap.keys_cons, ih hbuilt, List.map_cons]

/-! ## Steps taken apart -/

theorem fieldsOf_yields {c : ClassRef} {fields : List SchemaField}
    (h : Yields (fieldsOf cat c.toExpr) L fields L') : cat.fieldsOf c = .ok fields ∧ L = L' := by
  unfold fieldsOf at h
  rw [TypeExpr.asClass?_toExpr] at h
  dsimp only at h
  split at h
  · next fields' hfields =>
    obtain ⟨rfl, rfl⟩ := yields_pure_iff.mp h
    exact ⟨hfields, rfl⟩
  · exact absurd h not_yields_throw
  · exact absurd h not_yields_throw

theorem array_yields {items : Build Node} {d : Option Json} {n : Node}
    (h : Yields (array items d) L n L') :
    ∃ item, Yields items L item L' ∧ n = .array item d none := by
  obtain ⟨item, L₁, hitem, hpure⟩ := yields_bind_iff.mp h
  obtain ⟨rfl, rfl⟩ := yields_pure_iff.mp hpure
  exact ⟨item, hitem, rfl⟩

/-- Meeting a class that the ledger knows: its node, and a mark if that is a placeholder. -/
theorem visited?_yields {c : ClassRef} {known : Option Node}
    (h : Yields (visited? cat c.toExpr) L known L') :
    (known = none ∧ L = L' ∧ (cat.isCustom c = true → L.get? c.toExpr = none)) ∨
      ∃ e, cat.isCustom c = true ∧ L.get? c.toExpr = some e ∧ known = some (L.node e) ∧
        L' = if isReference (L.node e) then L.setRecursive c.toExpr true else L := by
  obtain ⟨L₁, L₂, hget, hrest⟩ := yields_bind_iff.mp h
  obtain ⟨rfl, rfl⟩ := yields_get_iff.mp hget
  cases hentry : L.get? c.toExpr with
  | none =>
      rw [hentry] at hrest
      obtain ⟨rfl, rfl⟩ := yields_pure_iff.mp hrest
      exact .inl ⟨rfl, rfl, fun _ => rfl⟩
  | some e =>
      rw [hentry] at hrest
      simp only [TypeExpr.asClass?_toExpr, Option.any_some] at hrest
      by_cases hcustom : cat.isCustom c = true
      · refine .inr ⟨e, hcustom, rfl, ?_⟩
        rw [if_pos hcustom] at hrest
        by_cases href : isReference (L.node e) = true
        · rw [if_pos href] at hrest ⊢
          obtain ⟨_, L₁, hset, hpure⟩ := yields_bind_iff.mp hrest
          obtain rfl := yields_set_iff.mp hset
          obtain ⟨rfl, rfl⟩ := yields_pure_iff.mp hpure
          exact ⟨rfl, rfl⟩
        · rw [if_neg href] at hrest ⊢
          obtain ⟨rfl, rfl⟩ := yields_pure_iff.mp hrest
          exact ⟨rfl, rfl⟩
      · rw [if_neg hcustom] at hrest
        obtain ⟨rfl, rfl⟩ := yields_pure_iff.mp hrest
        exact .inl ⟨rfl, rfl, fun h => absurd h hcustom⟩

/-- Members are built one after the other, on top of the properties that are there. -/
theorem foldlM_yields (element : Element) (owner : TypeExpr) {room : Nat}
    (hstep : ∀ {t given location L n L'}, Yields (element t given location) L n L' →
      Builds cat room L (.type t given) (.node n) L')
    {fields : List SchemaField} {done ps : List (String × Node)}
    (h : Yields (fields.foldlM (fun done f => do
      let n ← element f.type f.description ⟨some owner, some f.name⟩
      return OrderedMap.put f.name n done) done) L ps L') :
    ∃ built, Builds cat room L (.members fields) (.members built) L' ∧
      ps = built.foldl (fun m (k, v) => OrderedMap.put k v m) done := by
  induction fields generalizing done L with
  | nil =>
      obtain ⟨rfl, rfl⟩ := yields_pure_iff.mp h
      exact ⟨[], .nil, rfl⟩
  | cons f fields ih =>
      rw [List.foldlM_cons] at h
      obtain ⟨done', L₁, hhead, htail⟩ := yields_bind_iff.mp h
      obtain ⟨n, L₂, hn, hpure⟩ := yields_bind_iff.mp hhead
      obtain ⟨rfl, rfl⟩ := yields_pure_iff.mp hpure
      obtain ⟨built, hbuilt, hps⟩ := ih htail
      exact ⟨(f.name, n) :: built, .cons (hstep hn) hbuilt, hps⟩

/-- The properties are the members that were built; a repeated name takes the place of the
first. -/
theorem properties_yields {element : Element} {owner : TypeExpr} {room : Nat}
    (hstep : ∀ {t given location L n L'}, Yields (element t given location) L n L' →
      Builds cat room L (.type t given) (.node n) L')
    {fields : List SchemaField} {ps : List (String × Node)}
    (h : Yields (properties element owner fields) L ps L') :
    ∃ built, Builds cat room L (.members fields) (.members built) L' ∧
      ps = OrderedMap.ofList built := by
  unfold properties at h
  exact foldlM_yields element owner hstep h

/-- A class that the ledger does not hand out is registered, built and stored. -/
theorem newObject_yields {element : Element} {room : Nat} {c : ClassRef} {d : Option Json}
    {n : Node} (hstep : ∀ {t given location L n L'}, Yields (element t given location) L n L' →
      Builds cat room L (.type t given) (.node n) L')
    (h : Yields (newObject cat element c.toExpr d) L n L') :
    ∃ fields built L₁, cat.fieldsOf c = .ok fields ∧
      Builds cat room (opened cat c L) (.members fields) (.members built) L₁ ∧
      n = objectNode cat c d built ∧ L' = L₁.store (newEntry cat c L) n := by
  obtain ⟨e, L₁, hregister, h⟩ := yields_bind_iff.mp h
  obtain ⟨rfl, rfl⟩ := yields_modifyGet_iff.mp hregister
  obtain ⟨fields, L₂, hread, h⟩ := yields_bind_iff.mp h
  obtain ⟨hfields, rfl⟩ := fieldsOf_yields hread
  obtain ⟨ps, L₃, hps, h⟩ := yields_bind_iff.mp h
  obtain ⟨built, hbuilt, rfl⟩ := properties_yields hstep hps
  obtain ⟨_, L₄, hstore, hpure⟩ := yields_bind_iff.mp h
  obtain rfl := yields_modify_iff.mp hstore
  obtain ⟨rfl, rfl⟩ := yields_pure_iff.mp hpure
  exact ⟨fields, built, L₃, hfields, hbuilt, rfl, rfl⟩

/-! ## Compilations have derivations -/

/-- The class of a task is handled by one of the three rules for classes. -/
theorem object_yields {element : Element} {room : Nat} {c : ClassRef} {d : Option Json}
    {n : Node} (hstep : ∀ {t given location L n L'}, Yields (element t given location) L n L' →
      Builds cat room L (.type t given) (.node n) L')
    (h : Yields (object cat element c.toExpr d false) L n L') :
    Builds cat room L (.object c d) (.node n) L' := by
  obtain ⟨known, L₁, hknown, hrest⟩ := yields_bind_iff.mp h
  rcases visited?_yields hknown with ⟨rfl, rfl, hnew⟩ | ⟨e, hcustom, hentry, rfl, rfl⟩
  · obtain ⟨m, L₂, hm, hpure⟩ := yields_bind_iff.mp hrest
    obtain ⟨rfl, rfl⟩ := yields_pure_iff.mp hpure
    obtain ⟨fields, built, L₃, hfields, hbuilt, rfl, rfl⟩ := newObject_yields hstep hm
    exact .fresh hnew hfields hbuilt
  · obtain ⟨rfl, rfl⟩ := yields_pure_iff.mp hrest
    cases href : isReference (L.node e) with
    | true => exact .placeholder hcustom hentry href
    | false => exact .reuse hcustom hentry href

/-- A type expression that compiles has a derivation. -/
theorem element_yields {limit : Int} {room : Nat} {t : TypeExpr} {given : Option Json}
    {location : Location} {n : Node}
    (h : Yields (element cat limit room t given location) L n L') :
    Builds cat room L (.type t given) (.node n) L' := by
  induction room generalizing t given location n L L' with
  | zero => exact absurd h not_yields_throw
  | succ room ih =>
      rw [element_succ] at h
      split at h
      · exact absurd h not_yields_throw
      · next hform =>
        obtain ⟨rfl, rfl⟩ := yields_pure_iff.mp h
        exact .scalar hform
      · next hform =>
        obtain ⟨item, hitem, rfl⟩ := array_yields h
        exact .array hform (ih hitem)
      · next hform => exact .object hform (object_yields ih h)

/-- A root with the definitions of a ledger, if there are any. -/
def rooted (L : Ledger TypeExpr) (m : Node) : Node :=
  match L.definitions with
  | [] => m
  | definitions => (m.withDefinitions? (some definitions)).getD m

theorem attachDefinitions_yields {m n : Node} (h : Yields (attachDefinitions m) L n L') :
    n = rooted L m ∧ L = L' := by
  obtain ⟨L₁, L₂, hget, hrest⟩ := yields_bind_iff.mp h
  obtain ⟨rfl, rfl⟩ := yields_get_iff.mp hget
  cases hdefinitions : L.definitions with
  | nil =>
      rw [hdefinitions] at hrest
      obtain ⟨rfl, rfl⟩ := yields_pure_iff.mp hrest
      exact ⟨by rw [rooted, hdefinitions], rfl⟩
  | cons p ps =>
      rw [hdefinitions] at hrest
      obtain ⟨rfl, rfl⟩ := yields_pure_iff.mp hrest
      exact ⟨by rw [rooted, hdefinitions], rfl⟩

/-- The object of a class with definitions is built like the class anywhere else, and then given
the definitions. -/
theorem object_yields_rooted {limit : Int} {room : Nat} {c : ClassRef} {d : Option Json} {n : Node}
    (h : Yields (object cat (element cat limit room) c.toExpr d true) .empty n L') :
    ∃ m, Builds cat room .empty (.object c d) (.node m) L' ∧ n = rooted L' m := by
  obtain ⟨known, L₁, hknown, hrest⟩ := yields_bind_iff.mp h
  rcases visited?_yields hknown with ⟨rfl, rfl, hnew⟩ | ⟨e, -, hentry, -⟩
  · obtain ⟨m, L₂, hm, hattach⟩ := yields_bind_iff.mp hrest
    obtain ⟨rfl, rfl⟩ := attachDefinitions_yields hattach
    obtain ⟨fields, built, L₃, hfields, hbuilt, rfl, rfl⟩ := newObject_yields element_yields hm
    exact ⟨_, .fresh hnew hfields hbuilt, rfl⟩
  · exact absurd hentry (by simp)

theorem root_builds {limit : Int} (hlimit : 1 ≤ limit) {t : TypeExpr} {n : Node}
    (h : Yields (root cat limit t) .empty n L') :
    ∃ m, Builds cat (limit.toNat + 1) .empty (.type t none) (.node m) L' ∧ n = rooted L' m := by
  rw [root_eq hlimit] at h
  split at h
  · next c d hform =>
    obtain ⟨m, hm, hn⟩ := object_yields_rooted h
    exact ⟨m, .object hform hm, hn⟩
  · obtain ⟨m, L₁, hm, hattach⟩ := yields_bind_iff.mp h
    obtain ⟨rfl, rfl⟩ := attachDefinitions_yields hattach
    exact ⟨m, element_yields hm, rfl⟩

end Compile

namespace Catalog

open Compile

variable {cat : Catalog} {limit : Int} {t : TypeExpr} {n : Node}

/-- The ledger that the compilation of a type leaves. -/
def visits (cat : Catalog) (limit : Int) (t : TypeExpr) : Ledger TypeExpr :=
  (outcome (Compile.root cat limit t) .empty).2

/-- A compilation that succeeds has a derivation, which ends with the ledger it leaves. -/
theorem build_builds (h : cat.build limit t = .ok n) :
    1 ≤ limit ∧ ∃ m, Builds cat (limit.toNat + 1) .empty (.type t none) (.node m)
      (cat.visits limit t) ∧ n = rooted (cat.visits limit t) m := by
  unfold build at h
  split at h
  · exact absurd h (by simp)
  · next hlimit =>
    have hroot : Yields (Compile.root cat limit t) .empty n (cat.visits limit t) := Prod.ext h rfl
    exact ⟨by omega, root_builds (by omega) hroot⟩

end Catalog

end TypeSchema
