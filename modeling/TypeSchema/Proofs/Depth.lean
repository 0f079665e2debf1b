import TypeSchema.Proofs.Compile.Root
/-!
# Depth of schemas

The compiler checks the depth of an expression when it is about to build it. A class that is
finished is handed out again without a check, however deep its object goes. So a schema stays
above the depth limit exactly when every object that is handed out again fits below the place
where it is put (`build_depth_iff`), which need not be so (`build_reuse_too_deep`).
-/

namespace TypeSchema

namespace Node

/-- The nodes at a level. The node itself is at level 0, its items or properties are one level
further down. Definitions are not followed. -/
def atLevel : Nat → Node → List Node
  | 0, n => [n]
  | k + 1, .array items _ _ => atLevel k items
  | k + 1, .object ps _ _ _ => ps.flatMap fun p => atLevel k p.2
  | _ + 1, _ => []

/-- All nodes are at levels below the bound. -/
def Within (bound : Nat) (n : Node) : Prop := ∀ k m, m ∈ n.atLevel k → k < bound

theorem within_of_flat {n : Node} (h : ∀ k, n.atLevel (k + 1) = []) (bound : Nat) :
    n.Within (bound + 1) := by
  intro k m hm
  cases k with
  | zero => omega
  | succ k => simp [h k] at hm

theorem within_array_iff {items : Node} {d : Option Json} {ds : Option (List (String × Node))}
    {bound : Nat} : (Node.array items d ds).Within (bound + 1) ↔ items.Within bound := by
  constructor
  · intro h k m hm
    have hlt := h (k + 1) m hm
    omega
  · intro h k m hm
    cases k with
    | zero => omega
    | succ k =>
        have hlt := h k m hm
        omega

theorem within_object_iff {ps : List (String × Node)} {required : Option (List String)}
    {d : Option Json} {ds : Option (List (String × Node))} {bound : Nat} :
    (Node.object ps required d ds).Within (bound + 1) ↔ ∀ p ∈ ps, p.2.Within bound := by
  constructor
  · intro h p hp k m hm
    have hlt := h (k + 1) m (List.mem_flatMap.mpr ⟨p, hp, hm⟩)
    omega
  · intro h k m hm
    cases k with
    | zero => omega
    | succ k =>
        obtain ⟨p, hp, hm⟩ := List.mem_flatMap.mp hm
        have hlt := h p hp k m hm
        omega

end Node

namespace Compile

/-- Under the task a finished node is handed out again, at a place below which `rest` of the
`room` levels are left. The place of a data member counts unless a later one has its name. -/
inductive Reuses (cat : Catalog) :
    (room : Nat) → Ledger TypeExpr → Task → (rest : Nat) → Node → Prop
  | here {room L c d e} : cat.isCustom c = true → L.get? c.toExpr = some e →
      isReference (L.node e) = false → Reuses cat room L (.object c d) room (L.node e)
  | array {room L t given item d rest m} : cat.form t given = .ok (.array item d) →
      Reuses cat room L (.type item none) rest m →
      Reuses cat (room + 1) L (.type t given) rest m
  | object {room L t given c d rest m} : cat.form t given = .ok (.object c d) →
      Reuses cat room L (.object c d) rest m → Reuses cat (room + 1) L (.type t given) rest m
  | fresh {room L c d fields rest m} : (cat.isCustom c = true → L.get? c.toExpr = none) →
      cat.fieldsOf c = .ok fields → Reuses cat room (opened cat c L) (.members fields) rest m →
      Reuses cat room L (.object c d) rest m
  | head {room L f fields rest m} : f.name ∉ fields.map (·.name) →
      Reuses cat room L (.type f.type f.description) rest m →
      Reuses cat room L (.members (f :: fields)) rest m
  | tail {room L L₁ f fields n rest m} :
      Builds cat room L (.type f.type f.description) (.node n) L₁ →
      Reuses cat room L₁ (.members fields) rest m →
      Reuses cat room L (.members (f :: fields)) rest m

variable {cat : Catalog} {L L' : Ledger TypeExpr} {room : Nat} {task : Task} {result : Result}

/-- Places are below the task. -/
theorem Reuses.rest_le {rest : Nat} {m : Node} (h : Reuses cat room L task rest m) :
    rest ≤ room := by
  induction h with
  | here _ _ _ => exact Nat.le_refl _
  | array _ _ ih => exact Nat.le_succ_of_le ih
  | object _ _ ih => exact Nat.le_succ_of_le ih
  | fresh _ _ _ ih => exact ih
  | head _ _ ih => exact ih
  | tail _ _ ih => exact ih

theorem Reuses.rest_lt {t : TypeExpr} {given : Option Json} {rest : Nat} {m : Node}
    (h : Reuses cat room L (.type t given) rest m) : rest < room := by
  cases h with
  | array _ hitem => exact Nat.lt_succ_of_le hitem.rest_le
  | object _ hobject => exact Nat.lt_succ_of_le hobject.rest_le

section

variable {t : TypeExpr} {given d : Option Json} {c : ClassRef} {rest : Nat} {m : Node}

theorem Reuses.not_of_scalar {n : Node} (hform : cat.form t given = .ok (.scalar n)) :
    ¬Reuses cat (room + 1) L (.type t given) rest m := by
  intro h
  cases h with
  | array hform' _ => exact absurd (hform.symm.trans hform') (by simp)
  | object hform' _ => exact absurd (hform.symm.trans hform') (by simp)

theorem Reuses.iff_of_array {item : TypeExpr} (hform : cat.form t given = .ok (.array item d)) :
    Reuses cat (room + 1) L (.type t given) rest m ↔
      Reuses cat room L (.type item none) rest m := by
  constructor
  · intro h
    cases h with
    | array hform' hitem =>
        obtain ⟨rfl, rfl⟩ := Form.array.inj (Except.ok.inj (hform.symm.trans hform'))
        exact hitem
    | object hform' _ => exact absurd (hform.symm.trans hform') (by simp)
  · exact .array hform

theorem Reuses.iff_of_object (hform : cat.form t given = .ok (.object c d)) :
    Reuses cat (room + 1) L (.type t given) rest m ↔ Reuses cat room L (.object c d) rest m := by
  constructor
  · intro h
    cases h with
    | array hform' _ => exact absurd (hform.symm.trans hform') (by simp)
    | object hform' hobject =>
        obtain ⟨rfl, rfl⟩ := Form.object.inj (Except.ok.inj (hform.symm.trans hform'))
        exact hobject
  · exact .object hform

/-- A class that the ledger hands out is its own only place, if it is finished. -/
theorem Reuses.iff_of_known {e : Entry} (hcustom : cat.isCustom c = true)
    (he : L.get? c.toExpr = some e) : Reuses cat room L (.object c d) rest m ↔
      isReference (L.node e) = false ∧ rest = room ∧ m = L.node e := by
  constructor
  · intro h
    cases h with
    | here _ he' href =>
        obtain rfl := Option.some.inj (he.symm.trans he')
        exact ⟨href, rfl, rfl⟩
    | fresh hnew _ _ => exact absurd ((hnew hcustom).symm.trans he) (by simp)
  · rintro ⟨href, rfl, rfl⟩
    exact .here hcustom he href

theorem Reuses.iff_of_fresh {fields : List SchemaField}
    (hnew : cat.isCustom c = true → L.get? c.toExpr = none) (hfields : cat.fieldsOf c = .ok fields) :
    Reuses cat room L (.object c d) rest m ↔
      Reuses cat room (opened cat c L) (.members fields) rest m := by
  constructor
  · intro h
    cases h with
    | here hcustom he _ => exact absurd ((hnew hcustom).symm.trans he) (by simp)
    | fresh _ hfields' hmembers =>
        obtain rfl := Except.ok.inj (hfields.symm.trans hfields')
        exact hmembers
  · exact .fresh hnew hfields

end

/-- The result fits in the levels that the task has. -/
def Fits (room : Nat) : Task → Result → Prop
  | .type _ _, .node n => n.Within room
  | .object _ _, .node n => n.Within (room + 1)
  | .members _, .members built => ∀ p ∈ OrderedMap.ofList built, p.2.Within room
  | _, _ => True

/-- What is built fits exactly if everything fits that is handed out again on the way. -/
theorem Builds.fits_iff (h : Builds cat room L task result L') (hL : Sound cat L) :
    Fits room task result ↔ ∀ rest m, Reuses cat room L task rest m → m.Within (rest + 1) := by
  -- A step of the derivation takes one level off where the walk down takes one off.
  induction h with
  | scalar hform =>
      refine iff_of_true ?_ fun rest m hreuse => absurd hreuse (Reuses.not_of_scalar hform)
      rcases Catalog.scalar_of_form hform with ⟨k, d, rfl⟩ | ⟨values, d, rfl⟩
      · exact Node.within_of_flat (fun _ => rfl) _
      · exact Node.within_of_flat (fun _ => rfl) _
  | array hform _ ih =>
      simp only [Reuses.iff_of_array hform]
      exact Node.within_array_iff.trans (ih hL)
  | object hform _ ih =>
      simp only [Reuses.iff_of_object hform]
      exact ih hL
  | placeholder hcustom he href =>
      refine iff_of_true ?_ fun rest m hreuse => ?_
      · rw [hL.node_of_reference hcustom he href]
        exact Node.within_of_flat (fun _ => rfl) _
      · exact absurd (href.symm.trans ((Reuses.iff_of_known hcustom he).mp hreuse).1) (by simp)
  | reuse hcustom he href =>
      constructor
      · intro h rest m hreuse
        obtain ⟨-, rfl, rfl⟩ := (Reuses.iff_of_known hcustom he).mp hreuse
        exact h
      · exact fun h => h _ _ (.here hcustom he href)
  | fresh hnew hfields _ ih =>
      simp only [Reuses.iff_of_fresh hnew hfields]
      exact Node.within_object_iff.trans (ih (hL.opened hnew))
  | nil =>
      refine iff_of_true (fun _ hp => absurd hp List.not_mem_nil) fun rest m hreuse => ?_
      cases hreuse
  | @cons room L L₁ L' f fields n built hn hbuilt ihn ihs =>
      obtain ⟨hL₁, -, -⟩ := hn.sound hL
      -- The first member stays in the object just if its name does not come again.
      have hname : f.name ∉ OrderedMap.keys built ↔ f.name ∉ fields.map (·.name) := by
        rw [hbuilt.keys_members]
      constructor
      · intro h rest m hreuse
        cases hreuse with
        | head hlast hhead =>
            refine (ihn hL).mp ?_ rest m hhead
            exact h _ (OrderedMap.mem_ofList_cons_iff.mpr (.inl ⟨rfl, hname.mpr hlast⟩))
        | tail hn' htail =>
            obtain ⟨-, rfl⟩ := hn.unique hn'
            refine (ihs hL₁).mp (fun p hp => ?_) rest m htail
            exact h p (OrderedMap.mem_ofList_cons_iff.mpr (.inr hp))
      · intro h p hp
        rcases OrderedMap.mem_ofList_cons_iff.mp hp with ⟨rfl, hlast⟩ | hp
        · exact (ihn hL).mpr fun rest m hhead => h rest m (.head (hname.mp hlast) hhead)
        · exact (ihs hL₁).mpr (fun rest m htail => h rest m (.tail hn htail)) p hp

/-- Definitions have no part in the levels of a root. -/
theorem Builds.within_rooted {t : TypeExpr} {given : Option Json} {m : Node}
    (h : Builds cat room .empty (.type t given) (.node m) L) (bound : Nat) :
    (rooted L m).Within (bound + 1) ↔ m.Within (bound + 1) := by
  rcases h.rooted_cases with ⟨items, d, ds, rfl, hroot, -⟩ |
    ⟨ps, required, d, ds, rfl, hroot, -⟩ | ⟨-, hroot, -⟩
  · rw [hroot, Node.within_array_iff, Node.within_array_iff]
  · rw [hroot, Node.within_object_iff, Node.within_object_iff]
  · rw [hroot]

end Compile

namespace Catalog

open Compile

/-- In the compilation of a type a finished node is handed out again at a depth. -/
def Reuses (cat : Catalog) (limit : Int) (t : TypeExpr) (depth : Nat) (m : Node) : Prop :=
  ∃ rest, rest + depth = limit.toNat ∧
    Compile.Reuses cat (limit.toNat + 1) .empty (.type t none) rest m

variable {cat : Catalog} {limit : Int} {t : TypeExpr} {n : Node}

/-- A schema keeps to the depth limit exactly if every node does that is handed out again. -/
theorem build_depth_iff (h : cat.build limit t = .ok n) :
    (∀ k m, m ∈ n.atLevel k → (k : Int) ≤ limit) ↔
      ∀ depth m, cat.Reuses limit t depth m → ∀ k x, x ∈ m.atLevel k →
        (depth + k : Int) ≤ limit := by
  obtain ⟨hlimit, m, hm, rfl⟩ := build_builds h
  have hfits : (rooted (cat.visits limit t) m).Within (limit.toNat + 1) ↔ _ :=
    (hm.within_rooted limit.toNat).trans (hm.fits_iff .empty)
  constructor
  · rintro hroot depth x ⟨rest, hdepth, hreuse⟩ k y hy
    have hwithin : (rooted (cat.visits limit t) m).Within (limit.toNat + 1) := by
      intro k y hy
      have hle := hroot k y hy
      omega
    have hlt := hfits.mp hwithin rest x hreuse k y hy
    omega
  · intro hreuses k x hx
    have hwithin : (rooted (cat.visits limit t) m).Within (limit.toNat + 1) := by
      refine hfits.mpr fun rest y hreuse k z hz => ?_
      have hrest := hreuse.rest_lt
      have hle := hreuses (limit.toNat - rest) y ⟨rest, by omega, hreuse⟩ k z hz
      omega
    have hlt := hwithin k x hx
    omega

/-- A class and another that holds it in two members: itself, and in a list. -/
def sharing (order : List SchemaField → List SchemaField) : Catalog :=
  .ofFields
    [("Part", [⟨"size", .builtin .int, none⟩]),
     ("Whole", order
       [⟨"one", (ClassRef.declared 0).toExpr, none⟩,
        ⟨"many", .subscript (.direct (.builtin .list)) [(ClassRef.declared 0).toExpr], none⟩])]

theorem exists_build_sharing :
    ∃ n, (sharing id).build 2 (ClassRef.declared 1).toExpr = .ok n ∧ ∃ m, m ∈ n.atLevel 3 := by
  obtain ⟨n, hn, hlevel⟩ : ∃ n, (sharing id).build 2 (ClassRef.declared 1).toExpr = .ok n ∧
      (!(n.atLevel 3).isEmpty) = true := exists_build (by decide +kernel)
  exact ⟨n, hn, List.exists_mem_of_ne_nil _ (by simpa using hlevel)⟩

/-- The limit is 2, and the schema has a node at level 3. With the two members in the other order
there is no schema. -/
theorem build_reuse_too_deep :
    (∃ n, (sharing id).build 2 (ClassRef.declared 1).toExpr = .ok n ∧
      ∃ k m, m ∈ n.atLevel k ∧ (2 : Int) < k) ∧
    ((sharing List.reverse).build 2 (ClassRef.declared 1).toExpr).isOk = false := by
  obtain ⟨n, hn, m, hm⟩ := exists_build_sharing
  exact ⟨⟨n, hn, 3, m, hm, by decide⟩, by decide +kernel⟩

theorem build_depth_iff_sharing :
    ∃ n, (sharing id).build 2 (ClassRef.declared 1).toExpr = .ok n ∧
      ∃ depth m, (sharing id).Reuses 2 (ClassRef.declared 1).toExpr depth m ∧
        ∃ k x, x ∈ m.atLevel k ∧ (2 : Int) < depth + k := by
  obtain ⟨n, hn, m, hm⟩ := exists_build_sharing
  refine ⟨n, hn, ?_⟩
  by_contra hnone
  have hfits := (build_depth_iff hn).mpr fun depth m hreuse k x hx => by
    by_contra hlt
    exact hnone ⟨depth, m, hreuse, k, x, hx, by omega⟩
  exact absurd (hfits 3 m hm) (by decide)

end Catalog

end TypeSchema
