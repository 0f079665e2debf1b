import Mathlib.Tactic.Common
import TypeSchema.Declaration
/-!
# Steps of declarations and what they keep

A step of a declaration reads and changes the catalog, and what it changed before it failed stays
changed. `Ensures I a P` says that the step `a` leaves the invariant `I` of catalogs intact, whether
it fails or not, and that what it returns has the property `P`. There is one rule for each thing that
a step can be made of. A step that changes more is described by `Yields I a J`: where `I` holds before
and the step does not fail, `J` holds of what it returns and of the catalog after it. `Moves I a J`
says of steps that may fail on the way where they leave the catalog.

Checks and evaluations do not change the catalog by themselves. What they return is described by
`Eval.Returns`, and where it is a catalog the rule `Ensures.set_check` puts it in place.
-/

namespace TypeSchema

variable {α β : Type}

/-! ## Checks -/

variable {ε : Type}

/-- Checks in a row succeed if each of them does. -/
theorem bind_eq_ok_iff {x : Except ε α} {f : α → Except ε β} {b : β} :
    (x >>= f) = .ok b ↔ ∃ a, x = .ok a ∧ f a = .ok b := by
  cases x <;> simp [bind, Except.bind]

/-- A fold of checks keeps what each of them keeps. -/
theorem foldlM_ok_induction {P : β → Prop} {f : β → α → Except ε β}
    (hstep : ∀ b a b', P b → f b a = .ok b' → P b') {xs : List α} {b b' : β} (hb : P b)
    (h : xs.foldlM f b = .ok b') : P b' := by
  induction xs generalizing b with
  | nil => exact Except.ok.inj h ▸ hb
  | cons x xs ih =>
      rw [List.foldlM_cons] at h
      obtain ⟨first, hfirst, hrest⟩ := bind_eq_ok_iff.mp h
      exact ih (hstep _ _ _ hb hfirst) hrest

/-! ## Evaluations -/

namespace Eval

/-- What an evaluation returns, if it does not fail, has a property. -/
def Returns (a : Eval α) (P : α → Prop) : Prop :=
  ∀ trace x trace', a.run trace = .ok (x, trace') → P x

variable {P : α → Prop} {Q : β → Prop} {a : Eval α}

theorem returns_true (a : Eval α) : Returns a fun _ => True := fun _ _ _ _ => trivial

theorem Returns.pure {x : α} (h : P x) : Returns (pure x) P := by
  intro trace y trace' hrun
  obtain ⟨rfl, -⟩ := Prod.mk.inj (Except.ok.inj hrun)
  exact h

theorem Returns.bind {f : α → Eval β} (ha : Returns a P) (hf : ∀ x, P x → Returns (f x) Q) :
    Returns (a >>= f) Q := by
  intro trace y trace' hrun
  rw [StateT.run_bind] at hrun
  obtain ⟨first, hfirst, hrest⟩ := bind_eq_ok_iff.mp hrun
  exact hf first.1 (ha _ _ _ hfirst) _ _ _ hrest

theorem Returns.mono {P' : α → Prop} (ha : Returns a P) (h : ∀ x, P x → P' x) : Returns a P' :=
  fun trace x trace' hrun => h x (ha trace x trace' hrun)

/-- A traversal returns what its steps return, one by one. -/
theorem Returns.mapM {R : α → β → Prop} {f : α → Eval β} (hf : ∀ x, Returns (f x) (R x))
    (xs : List α) : Returns (xs.mapM f) (List.Forall₂ R xs) := by
  induction xs with
  | nil => exact .pure .nil
  | cons x xs ih =>
      rw [List.mapM_cons]
      exact .bind (hf x) fun y hy => .bind ih fun ys hys => .pure (.cons hy hys)

theorem Returns.ite {p : Prop} [Decidable p] {b : Eval α} (ha : Returns a P) (hb : Returns b P) :
    Returns (if p then a else b) P := by
  split
  · exact ha
  · exact hb

end Eval

/-! ## Declarations -/

namespace Declaring

/-- The step keeps an invariant of catalogs, and what it returns has a property. -/
def Ensures (I : Catalog → Prop) (a : Declaring α) (P : α → Prop) : Prop :=
  ∀ cat, I cat → I (a.run.run cat).2 ∧ ∀ x, (a.run.run cat).1 = .ok x → P x

/-- The step keeps an invariant of catalogs. -/
abbrev Keeps (I : Catalog → Prop) (a : Declaring α) : Prop := Ensures I a fun _ => True

variable {I : Catalog → Prop} {P P' : α → Prop} {Q : β → Prop} {a : Declaring α}

theorem Ensures.mono (ha : Ensures I a P) (h : ∀ x, P x → P' x) : Ensures I a P' :=
  fun cat hcat => ⟨(ha cat hcat).1, fun x hx => h x ((ha cat hcat).2 x hx)⟩

theorem Ensures.keeps (ha : Ensures I a P) : Keeps I a := ha.mono fun _ _ => trivial

theorem Ensures.pure {x : α} (h : P x) : Ensures I (pure x) P :=
  fun _ hcat => ⟨hcat, fun _ hx => Except.ok.inj hx ▸ h⟩

theorem keeps_pure (x : α) : Keeps I (pure x) := .pure trivial

theorem ensures_throw (e : DeclareError) : Ensures I (throw e) P := fun _ hcat => ⟨hcat, nofun⟩

/-- A sequence goes on from what its first part left, unless that part failed. -/
theorem run_bind (a : Declaring α) (f : α → Declaring β) (cat : Catalog) :
    (a >>= f).run.run cat =
      match a.run.run cat with
      | (.ok x, cat') => (f x).run.run cat'
      | (.error e, cat') => (.error e, cat') := by
  rw [ExceptT.run_bind, StateT.run_bind]
  rcases a.run.run cat with ⟨_ | x, cat'⟩ <;> rfl

theorem Ensures.bind {f : α → Declaring β} (ha : Ensures I a P)
    (hf : ∀ x, P x → Ensures I (f x) Q) : Ensures I (a >>= f) Q := by
  intro cat hcat
  obtain ⟨hkept, hfirst⟩ := ha cat hcat
  rw [run_bind]
  rcases hrun : a.run.run cat with ⟨_ | x, cat'⟩ <;> rw [hrun] at hkept hfirst
  · exact ⟨hkept, nofun⟩
  · exact hf x (hfirst x rfl) cat' hkept

/-- Nothing need be known of what the first part returns. -/
theorem Ensures.then {f : α → Declaring β} (ha : Keeps I a) (hf : ∀ x, Ensures I (f x) Q) :
    Ensures I (a >>= f) Q :=
  ha.bind fun x _ => hf x

theorem run_get (cat : Catalog) : (get : Declaring Catalog).run.run cat = (.ok cat, cat) := rfl

theorem ensures_get : Ensures I get I := fun _ hcat => ⟨hcat, fun _ hx => Except.ok.inj hx ▸ hcat⟩

theorem keeps_set {cat : Catalog} (h : I cat) : Keeps I (set cat) :=
  fun _ _ => ⟨h, fun _ _ => trivial⟩

theorem keeps_modify {f : Catalog → Catalog} (h : ∀ cat, I cat → I (f cat)) :
    Keeps I (modify f) :=
  fun cat hcat => ⟨h cat hcat, fun _ _ => trivial⟩

theorem keeps_modifyGet {f : Catalog → α × Catalog} (h : ∀ cat, I cat → I (f cat).2) :
    Keeps I (modifyGet f) :=
  fun cat hcat => ⟨h cat hcat, fun _ _ => trivial⟩

theorem ensures_check {wrap : ε → DeclareError} {result : Except ε α}
    (h : ∀ x, result = .ok x → P x) : Ensures I (check wrap result) P := by
  cases result with
  | error e => exact ensures_throw _
  | ok x => exact .pure (h x rfl)

theorem keeps_check (wrap : ε → DeclareError) (result : Except ε α) :
    Keeps I (check wrap result) :=
  ensures_check fun _ _ => trivial

/-- A catalog that passed a check is put in place. -/
theorem Ensures.set_check {wrap : ε → DeclareError} {change : Except ε Catalog}
    {next : PUnit → Declaring α} (h : ∀ cat, change = .ok cat → I cat)
    (hnext : Ensures I (next ⟨⟩) P) :
    Ensures I (check wrap change >>= fun cat => set cat >>= next) P :=
  (ensures_check h).bind fun _ hcat => (keeps_set hcat).then fun _ => hnext

/-- A change that depends on what a check of the catalog returned. -/
theorem Ensures.modify_check {wrap : ε → DeclareError} {result : Catalog → Except ε β}
    {change : β → Catalog → Catalog} {next : PUnit → Declaring α}
    (h : ∀ cat x, I cat → result cat = .ok x → I (change x cat)) (hnext : Ensures I (next ⟨⟩) P) :
    Ensures I (get >>= fun cat => check wrap (result cat) >>= fun x => modify (change x) >>= next)
      P := by
  intro cat hcat
  rw [run_bind, run_get]
  dsimp only
  cases hx : result cat with
  | error e => exact ⟨hcat, nofun⟩
  | ok x => exact hnext (change x cat) (h cat x hcat hx)

theorem Ensures.ite {p : Prop} [Decidable p] {b : Declaring α} (ha : Ensures I a P)
    (hb : Ensures I b P) : Ensures I (if p then a else b) P := by
  split
  · exact ha
  · exact hb

/-- A test that may end the step. -/
theorem Ensures.unless {p : Prop} [Decidable p] {e : DeclareError} {rest : β → Declaring α}
    {next : Declaring α} (h : Ensures I next P) :
    Ensures I (if p then throw e >>= rest else next) P := by
  have hthrow : Ensures I (throw e) fun _ : β => False := ensures_throw e
  exact .ite (hthrow.bind fun _ hfalse => hfalse.elim) h

theorem keeps_mapM {f : α → Declaring β} (hf : ∀ x, Keeps I (f x)) (xs : List α) :
    Keeps I (xs.mapM f) := by
  induction xs with
  | nil => exact keeps_pure _
  | cons x xs ih =>
      rw [List.mapM_cons]
      exact (hf x).then fun _ => ih.then fun _ => keeps_pure _

theorem keeps_optionMapM {f : α → Declaring β} (hf : ∀ x, Keeps I (f x)) (o : Option α) :
    Keeps I (o.mapM f) := by
  cases o with
  | none => exact keeps_pure _
  | some x => exact (hf x).then fun _ => keeps_pure _

theorem ensures_foldlM {f : β → α → Declaring β} (xs : List α)
    (hf : ∀ b, ∀ x ∈ xs, Q b → Ensures I (f b x) Q) {b : β} (hb : Q b) :
    Ensures I (xs.foldlM f b) Q := by
  induction xs generalizing b with
  | nil => exact .pure hb
  | cons x xs ih =>
      rw [List.foldlM_cons]
      refine (hf b x List.mem_cons_self hb).bind fun _ hb' => ih (fun b x hx => ?_) hb'
      exact hf b x (List.mem_cons_of_mem _ hx)

/-! ### From one property to another -/

/-- From a catalog with one property the step leads to a result and a catalog with another, unless
it fails. -/
def Yields (I : Catalog → Prop) (a : Declaring α) (J : α → Catalog → Prop) : Prop :=
  ∀ cat, I cat → ∀ x cat', a.run.run cat = (.ok x, cat') → J x cat'

variable {J : α → Catalog → Prop} {K : β → Catalog → Prop}

theorem Ensures.yields (ha : Ensures I a P) : Yields I a fun x cat => I cat ∧ P x := by
  intro cat hcat x cat' hrun
  have h := ha cat hcat
  rw [hrun] at h
  exact ⟨h.1, h.2 x rfl⟩

theorem Yields.bind {f : α → Declaring β} (ha : Yields I a J) (hf : ∀ x, Yields (J x) (f x) K) :
    Yields I (a >>= f) K := by
  intro cat hcat y cat' hrun
  rw [run_bind] at hrun
  rcases hfirst : a.run.run cat with ⟨_ | x, between⟩ <;> rw [hfirst] at hrun
  · exact absurd (congrArg Prod.fst hrun) nofun
  · exact hf x between (ha cat hcat x between hfirst) y cat' hrun

/-- A first part that keeps the property. -/
theorem Ensures.bind_yields {f : α → Declaring β} (ha : Ensures I a P)
    (hf : ∀ x, P x → Yields I (f x) K) : Yields I (a >>= f) K :=
  ha.yields.bind fun x cat hcat => hf x hcat.2 cat hcat.1

theorem Ensures.then_yields {f : α → Declaring β} (ha : Keeps I a)
    (hf : ∀ x, Yields I (f x) K) : Yields I (a >>= f) K :=
  ha.bind_yields fun x _ => hf x

theorem yields_modify {f : Catalog → Catalog} {J : PUnit → Catalog → Prop}
    (h : ∀ cat, I cat → J ⟨⟩ (f cat)) : Yields I (modify f) J := by
  intro cat hcat x cat' hrun
  obtain ⟨-, rfl⟩ := Prod.mk.inj hrun
  exact h cat hcat

theorem yields_pure {x : α} (h : ∀ cat, I cat → J x cat) : Yields I (pure x) J := by
  intro cat hcat y cat' hrun
  obtain ⟨hy, rfl⟩ := Prod.mk.inj hrun
  exact Except.ok.inj hy ▸ h cat hcat

theorem yields_throw (e : DeclareError) : Yields I (throw e) J :=
  fun _ _ _ _ hrun => absurd (congrArg Prod.fst hrun) nofun

theorem Yields.unless {p : Prop} [Decidable p] {e : DeclareError} {rest : β → Declaring α}
    {next : Declaring α} (h : Yields I next J) :
    Yields I (if p then throw e >>= rest else next) J := by
  split
  · have hthrow : Yields I (throw e) fun (_ : β) _ => False := yields_throw e
    exact hthrow.bind fun _ _ hfalse => hfalse.elim
  · exact h

/-! ### Steps that may fail on the way -/

/-- From a catalog with one property the step leads to one with that property or with another, whether
it fails or not. -/
def Moves (I : Catalog → Prop) (a : Declaring α) (J : Catalog → Prop) : Prop :=
  ∀ cat, I cat → I (a.run.run cat).2 ∨ J (a.run.run cat).2

section Moves

variable {J : Catalog → Prop}

/-- A first part that does not leave the first property. -/
theorem Ensures.bind_moves {f : α → Declaring β} (ha : Ensures I a P)
    (hf : ∀ x, P x → Moves I (f x) J) : Moves I (a >>= f) J := by
  intro cat hcat
  obtain ⟨hkept, hfirst⟩ := ha cat hcat
  rw [run_bind]
  rcases hrun : a.run.run cat with ⟨_ | x, cat'⟩ <;> rw [hrun] at hkept hfirst
  · exact .inl hkept
  · exact hf x (hfirst x rfl) cat' hkept

theorem Ensures.then_moves {f : α → Declaring β} (ha : Keeps I a) (hf : ∀ x, Moves I (f x) J) :
    Moves I (a >>= f) J :=
  ha.bind_moves fun x _ => hf x

theorem moves_modify {f : Catalog → Catalog} (h : ∀ cat, I cat → J (f cat)) :
    Moves I (modify f) J :=
  fun cat hcat => .inr (h cat hcat)

/-- A change of the catalog, and what is done afterwards. -/
theorem moves_modify_then {f : Catalog → Catalog} {g : PUnit → Declaring α}
    (h : ∀ cat, I cat → J (f cat)) (hg : Keeps J (g ⟨⟩)) : Moves I (modify f >>= g) J :=
  fun cat hcat => .inr (hg (f cat) (h cat hcat)).1

theorem Moves.unless {p : Prop} [Decidable p] {e : DeclareError} {rest : β → Declaring α}
    {next : Declaring α} (h : Moves I next J) :
    Moves I (if p then throw e >>= rest else next) J := by
  split
  · have hthrow : Ensures I (throw e) fun _ : β => False := ensures_throw e
    exact hthrow.bind_moves fun _ hfalse => hfalse.elim
  · exact h

end Moves

end Declaring

end TypeSchema
