import TypeSchema.Proofs.Compile.Calls
import TypeSchema.Proofs.Compile.Failure
/-!
# Moments of a compilation

`Occurs cat x L` says that the ledger occurs while the call `x` is run, whether it succeeds or not:
where a call on the way begins, where a class has just been registered, or where a call on the way
ends. All of these ledgers are sound (`Occurs.sound`), and the ledger that a run leaves is one of
them, that of a failing run included (`Catalog.occurs_visits`).

The functions of the compiler can be called at any of these moments (`Returns`).
-/

namespace TypeSchema

namespace Compile

/-- The ledger occurs while the call is run. -/
inductive Occurs (cat : Catalog) (x : Call) : Ledger TypeExpr → Prop
  | enter {y : Call} : Reached cat x y → Occurs cat x y.ledger
  /-- A class has been registered, and its data members have not been listed yet. -/
  | register {room L c d} : Reached cat x ⟨room, L, .object c d⟩ →
      (cat.isCustom c = true → L.get? c.toExpr = none) → Occurs cat x (opened cat c L)
  | leave {y : Call} {result L'} : Reached cat x y →
      Builds cat y.room y.ledger y.task result L' → Occurs cat x L'

variable {cat : Catalog} {L L' : Ledger TypeExpr} {room : Nat} {x y : Call}

theorem Occurs.of_calls (hcall : Reached cat x y) (h : Occurs cat y L) : Occurs cat x L := by
  cases h with
  | enter hpath => exact .enter (hcall.trans hpath)
  | register hpath hnew => exact .register (hcall.trans hpath) hnew
  | leave hpath hbuilds => exact .leave (hcall.trans hpath) hbuilds

theorem Calls.sound (h : Calls cat x y) (hL : Sound cat x.ledger) : Sound cat y.ledger := by
  cases h with
  | array _ => exact hL
  | object _ => exact hL
  | fresh hnew _ => exact hL.opened hnew
  | head => exact hL
  | tail hn => exact (hn.sound hL).1

theorem Reached.sound (h : Reached cat x y) (hL : Sound cat x.ledger) : Sound cat y.ledger := by
  induction h with
  | refl => exact hL
  | tail _ hcall ih => exact hcall.sound ih

/-- From a sound ledger only sound ledgers occur. -/
theorem Occurs.sound (h : Occurs cat x L) (hL : Sound cat x.ledger) : Sound cat L := by
  cases h with
  | enter hpath => exact hpath.sound hL
  | register hpath hnew => exact (hpath.sound hL).opened hnew
  | leave hpath hbuilds => exact (hbuilds.sound (hpath.sound hL)).1

/-! ## The ledger that a run leaves -/

variable {α β : Type} {limit : Int} {location : Location}

/-- A sequence leaves what its second part leaves, or its first part if that fails. -/
theorem left_bind {P : Ledger TypeExpr → Prop} {b : Build α} {f : α → Build β}
    (hfail : ∀ e, Throws b L e → P (outcome b L).2)
    (hrest : ∀ a L₁, Yields b L a L₁ → P (outcome (f a) L₁).2) :
    P (outcome (b >>= f) L).2 := by
  rw [outcome_bind]
  rcases h : outcome b L with ⟨e | a, L₁⟩
  · have hleft := hfail e (congrArg Prod.fst h)
    rwa [h] at hleft
  · exact hrest a L₁ h

/-- Listing the data members of a class leaves the ledger as it is. -/
theorem left_fieldsOf (c : ClassRef) (L : Ledger TypeExpr) :
    (outcome (fieldsOf cat c.toExpr) L).2 = L := by
  unfold fieldsOf
  rw [TypeExpr.asClass?_toExpr]
  dsimp only
  split <;> rfl

theorem left_attachDefinitions (m : Node) (L : Ledger TypeExpr) :
    (outcome (attachDefinitions m) L).2 = L := by
  rcases h : outcome (attachDefinitions m) L with ⟨e | n, L₁⟩
  · exact absurd (congrArg Prod.fst h) not_throws_attachDefinitions
  · exact (attachDefinitions_yields h).2.symm

section Object

variable (element : Element) {c : ClassRef} {d : Option Json}
  (hyields : ∀ {t given location L n L'}, Yields (element t given location) L n L' →
    Builds cat room L (.type t given) (.node n) L')
  (hleft : ∀ {t given location L}, Occurs cat ⟨room, L, .type t given⟩
    (outcome (element t given location) L).2)

include hyields hleft

theorem occurs_foldlM (owner : TypeExpr) (fields : List SchemaField)
    (done : List (String × Node)) :
    Occurs cat ⟨room, L, .members fields⟩ (outcome (fields.foldlM (fun done f => do
      let n ← element f.type f.description ⟨some owner, some f.name⟩
      return OrderedMap.put f.name n done) done) L).2 := by
  induction fields generalizing done L with
  | nil => exact .enter .refl
  | cons f fields ih =>
      have hhead : Occurs cat ⟨room, L, .members (f :: fields)⟩
          (outcome (element f.type f.description ⟨some owner, some f.name⟩) L).2 :=
        hleft.of_calls (.single .head)
      rw [List.foldlM_cons]
      refine left_bind (fun _ _ => left_bind (fun _ _ => hhead) fun n L₁ hn => ?_) ?_
      · rwa [congrArg Prod.snd hn] at hhead
      · intro done' L₁ hdone
        obtain ⟨n, L₂, hn, hpure⟩ := yields_bind_iff.mp hdone
        obtain ⟨rfl, rfl⟩ := yields_pure_iff.mp hpure
        exact (ih _).of_calls (.single (.tail (hyields hn)))

theorem occurs_newObject (hnew : cat.isCustom c = true → L.get? c.toExpr = none) :
    Occurs cat ⟨room, L, .object c d⟩ (outcome (newObject cat element c.toExpr d) L).2 := by
  refine left_bind (fun e he => absurd he not_throws_modifyGet) fun entry L₁ hregister => ?_
  obtain rfl : opened cat c L = L₁ := (yields_modifyGet_iff.mp hregister).2
  refine left_bind (fun _ _ => ?_) fun fields L₁ hread => ?_
  · rw [left_fieldsOf]
    exact .register .refl hnew
  obtain ⟨hfields, rfl⟩ := fieldsOf_yields hread
  have hcall : Calls cat ⟨room, L, .object c d⟩ ⟨room, opened cat c L, .members fields⟩ :=
    .fresh hnew hfields
  refine left_bind (fun _ _ => ?_) fun ps L₂ hps => ?_
  · exact (occurs_foldlM element hyields hleft c.toExpr fields []).of_calls (.single hcall)
  obtain ⟨built, hbuilt, rfl⟩ := properties_yields hyields hps
  obtain rfl : entry = newEntry cat c L := (yields_modifyGet_iff.mp hregister).1.symm
  exact .leave .refl (.fresh hnew hfields hbuilt)

theorem occurs_object (emitDefinitions : Bool) : Occurs cat ⟨room, L, .object c d⟩
    (outcome (object cat element c.toExpr d emitDefinitions) L).2 := by
  refine left_bind (fun e he => absurd he not_throws_visited?) fun known L₁ hknown => ?_
  rcases visited?_yields hknown with ⟨rfl, rfl, hnew⟩ | ⟨entry, hcustom, hentry, rfl, rfl⟩
  · have hobject : Occurs cat ⟨room, L, .object c d⟩
        (outcome (newObject cat element c.toExpr d) L).2 :=
      occurs_newObject element hyields hleft hnew
    refine left_bind (fun _ _ => hobject) fun m L₂ hm => ?_
    rw [congrArg Prod.snd hm] at hobject
    split
    · rwa [left_attachDefinitions]
    · exact hobject
  · cases href : isReference (L.node entry) with
    | true => exact .leave .refl (.placeholder hcustom hentry href)
    | false => exact .leave .refl (.reuse hcustom hentry href)

end Object

theorem occurs_element (limit : Int) (room : Nat) (t : TypeExpr) (given : Option Json)
    (location : Location) (L : Ledger TypeExpr) : Occurs cat ⟨room, L, .type t given⟩
      (outcome (element cat limit room t given location) L).2 := by
  induction room generalizing t given location L with
  | zero => exact .enter .refl
  | succ room ih =>
      rw [element_succ]
      split
      · exact .enter .refl
      · exact .enter .refl
      · next item d hform =>
        have hitem := (ih item none location L).of_calls (.single (.array hform))
        refine left_bind (fun _ _ => hitem) fun n L₁ hn => ?_
        rwa [congrArg Prod.snd hn] at hitem
      · next c d hform =>
        have hobject : Occurs cat ⟨room, L, .object c d⟩
            (outcome (object cat (element cat limit room) c.toExpr d false) L).2 :=
          occurs_object _ element_yields (ih _ _ _ _) false
        exact hobject.of_calls (.single (.object hform))

theorem occurs_root (hlimit : 1 ≤ limit) (t : TypeExpr) :
    Occurs cat ⟨limit.toNat + 1, .empty, .type t none⟩ (outcome (root cat limit t) .empty).2 := by
  rw [root_eq hlimit]
  split
  · next c d hform =>
    exact (occurs_object _ element_yields (occurs_element limit _ _ _ _ _) true).of_calls
      (.single (.object hform))
  · have helement : Occurs cat ⟨limit.toNat + 1, .empty, .type t none⟩
        (outcome (element cat limit (limit.toNat + 1) t none .root) .empty).2 :=
      occurs_element limit _ t none .root .empty
    refine left_bind (fun _ _ => helement) fun m L₁ hm => ?_
    rw [congrArg Prod.snd hm] at helement
    rwa [left_attachDefinitions]

/-! ## Calls from a moment on -/

/-- A call of one of the two functions of the compiler returns a node and leaves a ledger. -/
inductive Returns (cat : Catalog) (L : Ledger TypeExpr) : Task → Node → Ledger TypeExpr → Prop
  | element {limit depth t given location n L'} :
      Yields (elementAt cat limit depth t given location) L n L' →
      Returns cat L (.type t given) n L'
  | object {limit depth c d emitDefinitions n L'} :
      Yields (objectAt cat limit depth (ClassRef.toExpr c) d emitDefinitions) L n L' →
      Returns cat L (.object c d) n L'

/-- What the ledger hands out gets no definitions, and a new object may get them. -/
theorem object_builds {element : Element} {c : ClassRef} {d : Option Json}
    {emitDefinitions : Bool} {n : Node}
    (hyields : ∀ {t given location L n L'}, Yields (element t given location) L n L' →
      Builds cat room L (.type t given) (.node n) L')
    (h : Yields (object cat element c.toExpr d emitDefinitions) L n L') :
    ∃ m, Builds cat room L (.object c d) (.node m) L' := by
  obtain ⟨known, L₁, hknown, hrest⟩ := yields_bind_iff.mp h
  cases known with
  | some m =>
      have h' : Yields (object cat element c.toExpr d false) L n L' :=
        yields_bind_iff.mpr ⟨some m, L₁, hknown, hrest⟩
      exact ⟨n, object_yields hyields h'⟩
  | none =>
      obtain ⟨m, L₂, hm, hattach⟩ := yields_bind_iff.mp hrest
      have hleft : L₂ = L' := by
        split at hattach
        · exact (attachDefinitions_yields hattach).2
        · exact (yields_pure_iff.mp hattach).2
      have h' : Yields (object cat element c.toExpr d false) L m L' :=
        yields_bind_iff.mpr ⟨none, L₁, hknown,
          yields_bind_iff.mpr ⟨m, L₂, hm, yields_pure_iff.mpr ⟨rfl, hleft⟩⟩⟩
      exact ⟨m, object_yields hyields h'⟩

/-- A call that returns has a derivation. -/
theorem Returns.builds {task : Task} {n : Node} (h : Returns cat L task n L') :
    ∃ room m, Builds cat room L task (.node m) L' := by
  cases h with
  | element h => exact ⟨_, n, element_yields h⟩
  | object h =>
      obtain ⟨m, hm⟩ := object_builds element_yields h
      exact ⟨_, m, hm⟩

end Compile

namespace Catalog

open Compile

variable {cat : Catalog} {limit : Int} {t : TypeExpr}

/-- The ledger occurs while a type is compiled. -/
def Occurs (cat : Catalog) (limit : Int) (t : TypeExpr) (L : Ledger TypeExpr) : Prop :=
  1 ≤ limit ∧ Compile.Occurs cat ⟨limit.toNat + 1, .empty, .type t none⟩ L

theorem Occurs.sound {L : Ledger TypeExpr} (h : cat.Occurs limit t L) : Sound cat L :=
  Compile.Occurs.sound h.2 .empty

/-- The ledger that a compilation leaves is its last moment, also if it fails. -/
theorem occurs_visits (hlimit : 1 ≤ limit) (t : TypeExpr) :
    cat.Occurs limit t (cat.visits limit t) := ⟨hlimit, occurs_root hlimit t⟩

end Catalog

end TypeSchema
