import Mathlib.Tactic.Common
import TypeSchema.Compile
/-!
# Compilation steps and their outcomes

`Yields b L a L'` says that the step `b` succeeds from the ledger `L` with the result `a` and
leaves the ledger `L'`, and `Throws b L e` that it fails with the error `e`. The lemmas take a step
apart along its `do` block: a sequence succeeds exactly when its parts do, one after the other, and
it fails when one of them does after those before it succeeded.
-/

namespace TypeSchema.Compile

variable {α β : Type} {L L' : Ledger TypeExpr}

/-- What a step comes to, and the ledger that it leaves. -/
def outcome (b : Build α) (L : Ledger TypeExpr) : Except SchemaError α × Ledger TypeExpr :=
  b.run.run L

/-- The step succeeds from `L` with the result `a`, and leaves `L'`. -/
def Yields (b : Build α) (L : Ledger TypeExpr) (a : α) (L' : Ledger TypeExpr) : Prop :=
  outcome b L = (.ok a, L')

@[simp] theorem outcome_pure (a : α) : outcome (pure a) L = (.ok a, L) := rfl

@[simp] theorem outcome_throw (e : SchemaError) :
    outcome (throw e : Build α) L = (.error e, L) := rfl

@[simp] theorem outcome_get : outcome get L = (.ok L, L) := rfl

@[simp] theorem outcome_set : outcome (set L') L = (.ok ⟨⟩, L') := rfl

@[simp] theorem outcome_modifyGet (f : Ledger TypeExpr → α × Ledger TypeExpr) :
    outcome (modifyGet f) L = (.ok (f L).1, (f L).2) := rfl

@[simp] theorem outcome_modify (f : Ledger TypeExpr → Ledger TypeExpr) :
    outcome (modify f) L = (.ok ⟨⟩, f L) := rfl

/-- A sequence goes on from what its first part left, unless that part failed. -/
theorem outcome_bind (b : Build α) (f : α → Build β) :
    outcome (b >>= f) L =
      match outcome b L with
      | (.ok a, L₁) => outcome (f a) L₁
      | (.error e, L₁) => (.error e, L₁) := by
  unfold outcome
  rw [ExceptT.run_bind, StateT.run_bind]
  rcases b.run.run L with ⟨_ | a, L₁⟩ <;> rfl

theorem yields_bind_iff {b : Build α} {f : α → Build β} {c : β} :
    Yields (b >>= f) L c L' ↔ ∃ a L₁, Yields b L a L₁ ∧ Yields (f a) L₁ c L' := by
  unfold Yields
  rw [outcome_bind]
  rcases outcome b L with ⟨e | a, L₁⟩
  · simp
  · constructor
    · intro h
      exact ⟨a, L₁, rfl, h⟩
    · rintro ⟨a', L₂, heq, h⟩
      obtain ⟨ha, rfl⟩ := Prod.mk.inj heq
      obtain rfl := Except.ok.inj ha
      exact h

@[simp] theorem yields_pure_iff {a b : α} : Yields (pure a) L b L' ↔ a = b ∧ L = L' := by
  simp [Yields]

@[simp] theorem not_yields_throw {e : SchemaError} {a : α} : ¬Yields (throw e) L a L' := by
  simp [Yields]

@[simp] theorem yields_get_iff {L₁ : Ledger TypeExpr} :
    Yields get L L₁ L' ↔ L = L₁ ∧ L = L' := by
  simp [Yields]

@[simp] theorem yields_set_iff {L₁ : Ledger TypeExpr} {u : PUnit} :
    Yields (set L₁) L u L' ↔ L₁ = L' := by
  simp [Yields]

@[simp] theorem yields_modifyGet_iff {f : Ledger TypeExpr → α × Ledger TypeExpr} {a : α} :
    Yields (modifyGet f) L a L' ↔ (f L).1 = a ∧ (f L).2 = L' := by
  simp [Yields]

@[simp] theorem yields_modify_iff {f : Ledger TypeExpr → Ledger TypeExpr} {u : PUnit} :
    Yields (modify f) L u L' ↔ f L = L' := by
  simp [Yields]

/-! ## Steps that fail -/

/-- The step fails from `L` with the error `e`. -/
def Throws (b : Build α) (L : Ledger TypeExpr) (e : SchemaError) : Prop :=
  (outcome b L).1 = .error e

variable {e : SchemaError}

theorem throws_bind_iff {b : Build α} {f : α → Build β} :
    Throws (b >>= f) L e ↔ Throws b L e ∨ ∃ a L₁, Yields b L a L₁ ∧ Throws (f a) L₁ e := by
  unfold Throws Yields
  rw [outcome_bind]
  rcases outcome b L with ⟨e' | a, L₁⟩
  · simp
  · constructor
    · intro h
      exact .inr ⟨a, L₁, rfl, h⟩
    · rintro (h | ⟨a', L₂, heq, h⟩)
      · exact absurd h (by simp)
      · obtain ⟨ha, rfl⟩ := Prod.mk.inj heq
        obtain rfl := Except.ok.inj ha
        exact h

@[simp] theorem throws_throw_iff {e' : SchemaError} :
    Throws (throw e' : Build α) L e ↔ e' = e := by
  simp [Throws]

@[simp] theorem not_throws_pure {a : α} : ¬Throws (pure a) L e := by
  simp [Throws]

@[simp] theorem not_throws_get : ¬Throws get L e := by
  simp [Throws]

@[simp] theorem not_throws_set : ¬Throws (set L') L e := by
  simp [Throws]

@[simp] theorem not_throws_modifyGet {f : Ledger TypeExpr → α × Ledger TypeExpr} :
    ¬Throws (modifyGet f) L e := by
  simp [Throws]

@[simp] theorem not_throws_modify {f : Ledger TypeExpr → Ledger TypeExpr} :
    ¬Throws (modify f) L e := by
  simp [Throws]

end TypeSchema.Compile
