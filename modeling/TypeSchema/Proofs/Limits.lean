import TypeSchema.Proofs.Compile.Failure
import TypeSchema.Proofs.Compile.Root
/-!
# Limits

The depth limit decides only how far a compilation gets. With more room a task is built in the
same way (`Builds.mono`) and fails in the same way (`Fails.mono`), unless it failed for want of
room. So a higher limit gives the same root, from the same ledger, or the same error
(`build_limits`).
-/

namespace TypeSchema

namespace Compile

variable {cat : Catalog} {L : Ledger TypeExpr} {room room' : Nat} {task : Task}

/-- With more room a task fails with the same error, unless there was no room. The members that were
built before the one that fails leave the same ledger. -/
theorem Fails.mono {limit limit' : Int} {location : Location} {e : SchemaError}
    (h : Fails cat limit room L task location e) (he : ∀ place, e ≠ .tooDeep limit place)
    (hroom : room ≤ room') : Fails cat limit' room' L task location e := by
  induction h generalizing room' with
  | tooDeep => exact absurd rfl (he _)
  | form hform =>
      obtain ⟨k, rfl⟩ := Nat.exists_eq_add_of_lt hroom
      exact .form hform
  | array hform _ ih =>
      obtain ⟨k, rfl⟩ := Nat.exists_eq_add_of_lt hroom
      exact .array hform (ih he (Nat.le_add_right _ k))
  | object hform _ ih =>
      obtain ⟨k, rfl⟩ := Nat.exists_eq_add_of_lt hroom
      exact .object hform (ih he (Nat.le_add_right _ k))
  | listing hnew hfields => exact .listing hnew hfields
  | fresh hnew hfields _ ih => exact .fresh hnew hfields (ih he hroom)
  | head _ ih => exact .head (ih he hroom)
  | tail hn _ ih => exact .tail (hn.mono hroom) (ih he hroom)

/-- An error about depth names the limit. -/
theorem Fails.limit_eq {limit bound : Int} {location place : Location}
    (h : Fails cat limit room L task location (.tooDeep bound place)) : bound = limit := by
  generalize heq : SchemaError.tooDeep bound place = e at h
  induction h with
  | tooDeep => exact (SchemaError.tooDeep.inj heq).1
  | form _ => exact absurd heq (by simp)
  | array _ _ ih => exact ih heq
  | object _ _ ih => exact ih heq
  | @listing _ _ _ _ _ cause _ _ => cases cause <;> exact absurd heq (by simp [membersError])
  | fresh _ _ _ ih => exact ih heq
  | head _ ih => exact ih heq
  | tail _ _ ih => exact ih heq

end Compile

namespace Catalog

open Compile

variable {cat : Catalog} {limit limit' : Int} {t : TypeExpr}

/-- A root is the same under a higher limit, and so is the ledger it comes from. -/
theorem build_ok_mono {n : Node} (h : cat.build limit t = .ok n) (hle : limit ≤ limit') :
    cat.build limit' t = .ok n ∧ cat.visits limit' t = cat.visits limit t := by
  obtain ⟨hlimit, m, hm, rfl⟩ := build_builds h
  have hm' : Builds cat (limit'.toNat + 1) .empty (.type t none) (.node m)
      (cat.visits limit t) := hm.mono (by omega)
  cases h' : cat.build limit' t with
  | error e =>
      rcases build_fails h' with ⟨hlow, -⟩ | ⟨-, hfails⟩
      · omega
      · exact absurd hfails hm'.not_fails
  | ok n' =>
      obtain ⟨-, m', hm'', rfl⟩ := build_builds h'
      obtain ⟨hnode, hledger⟩ := hm''.unique_of_rooms hm
      obtain rfl := Result.node.inj hnode
      rw [hledger]
      exact ⟨rfl, rfl⟩

/-- An error that is not about depth is the same under a higher limit. -/
theorem build_error_mono {e : SchemaError} (hlimit : 1 ≤ limit)
    (h : cat.build limit t = .error e) (he : ∀ place, e ≠ .tooDeep limit place)
    (hle : limit ≤ limit') : cat.build limit' t = .error e := by
  rcases build_fails h with ⟨hlow, -⟩ | ⟨-, hfails⟩
  · omega
  have hfails' : Fails cat limit' (limit'.toNat + 1) .empty (.type t none) .root e :=
    hfails.mono he (by omega)
  cases h' : cat.build limit' t with
  | error e' =>
      rcases build_fails h' with ⟨hlow, -⟩ | ⟨-, hfails''⟩
      · omega
      · rw [hfails''.unique hfails']
  | ok n =>
      obtain ⟨-, m, hm, -⟩ := build_builds h'
      exact absurd hfails' hm.not_fails

/-- Raising the limit changes no outcome but an error about depth: roots stay, with the ledgers they
come from, other errors stay, and what is too deep for the higher limit was too deep for the lower. -/
theorem build_limits (hlimit : 1 ≤ limit) (hle : limit ≤ limit') :
    (∀ n, cat.build limit t = .ok n →
      cat.build limit' t = .ok n ∧ cat.visits limit' t = cat.visits limit t) ∧
    (∀ e, cat.build limit t = .error e →
      (∃ place, e = .tooDeep limit place) ∨ cat.build limit' t = .error e) ∧
    (∀ cause place, cat.build limit t = .error (.unresolvable cause place) →
      cat.build limit' t = .error (.unresolvable cause place)) ∧
    (∀ bound place', cat.build limit' t = .error (.tooDeep bound place') →
      ∃ place, cat.build limit t = .error (.tooDeep limit place)) := by
  have herror : ∀ e, cat.build limit t = .error e →
      (∃ place, e = .tooDeep limit place) ∨ cat.build limit' t = .error e := by
    intro e h
    by_cases he : ∃ place, e = .tooDeep limit place
    · exact .inl he
    · exact .inr (build_error_mono hlimit h (fun place heq => he ⟨place, heq⟩) hle)
  refine ⟨fun n h => build_ok_mono h hle, herror, fun cause place h => ?_, fun bound place' h' => ?_⟩
  · exact build_error_mono hlimit h (by simp) hle
  · cases h : cat.build limit t with
    | ok n => exact absurd (h'.symm.trans (build_ok_mono h hle).1) (by simp)
    | error e =>
        rcases herror e h with ⟨place, rfl⟩ | h''
        · exact ⟨place, rfl⟩
        · obtain rfl := Except.error.inj (h'.symm.trans h'')
          rcases build_fails h with ⟨hlow, -⟩ | ⟨-, hfails⟩
          · omega
          · obtain rfl := hfails.limit_eq
            exact ⟨place', rfl⟩

theorem build_limits_households :
    ∃ n, households.build 8 (ClassRef.declared 0).toExpr = .ok n ∧ n.definitions.length = 2 ∧
      households.build 64 (ClassRef.declared 0).toExpr = .ok n ∧
      ∃ place, households.build 1 (ClassRef.declared 0).toExpr = .error (.tooDeep 1 place) := by
  obtain ⟨n, hn, hlength⟩ := exists_build_households
  have hlimits : (1 : Int) ≤ 8 ∧ (8 : Int) ≤ 64 := by decide
  exact ⟨n, hn, hlength, ((build_limits hlimits.1 hlimits.2).1 n hn).1, _, rfl⟩

end Catalog

end TypeSchema
