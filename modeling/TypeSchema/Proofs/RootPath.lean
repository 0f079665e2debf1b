import TypeSchema.Proofs.Compile.Failure
import TypeSchema.Proofs.Compile.Root
/-!
# Two ways to the root

A root is compiled in one of two ways. An object class is taken directly, with a test of its own,
and gets its definitions from inside the object; any other type goes through the chain for elements
and gets its definitions at the end. Both come to what the chain for elements makes of the type
(`build_iff_element`). The derivations serve as the middle: they describe exactly the runs that
succeed (`element_yields_iff`) and those that fail (`element_throws_iff`).
-/

namespace TypeSchema

namespace Compile

variable {cat : Catalog} {limit : Int} {room : Nat} {L L' : Ledger TypeExpr} {t : TypeExpr}
  {given : Option Json} {location : Location}

/-- A type expression compiles just as its derivation says. -/
theorem element_yields_iff {n : Node} :
    Yields (element cat limit room t given location) L n L' ↔
      Builds cat room L (.type t given) (.node n) L' := by
  refine ⟨element_yields, fun h => ?_⟩
  -- The run ends in some way, and each way has a derivation, of which there is only one.
  rcases hrun : outcome (element cat limit room t given location) L with ⟨e | m, L₁⟩
  · exact absurd (element_throws (congrArg Prod.fst hrun)) h.not_fails
  · obtain ⟨hnode, rfl⟩ := (element_yields hrun).unique h
    obtain rfl := Result.node.inj hnode
    exact hrun

/-- A type expression fails just as its derivation says. -/
theorem element_throws_iff {e : SchemaError} :
    Throws (element cat limit room t given location) L e ↔
      Fails cat limit room L (.type t given) location e := by
  refine ⟨element_throws, fun h => ?_⟩
  rcases hrun : outcome (element cat limit room t given location) L with ⟨e' | m, L₁⟩
  · have hthrows : Throws (element cat limit room t given location) L e' := congrArg Prod.fst hrun
    rwa [← (element_throws hthrows).unique h]
  · exact absurd h (element_yields hrun).not_fails

/-- The node is another one with the definitions of a ledger, and nothing else is changed. Without
recursive types there are none, and there were none before. -/
def IsRootOf (L : Ledger TypeExpr) (m n : Node) : Prop :=
  (L.recursiveEntries = [] ∧ n = m ∧ ∀ k, m.withDefinitions? none = some k → k = m) ∨
    (L.recursiveEntries ≠ [] ∧ m.withDefinitions? (some L.definitions) = some n)

/-- What is compiled from an empty ledger is turned into its root in one way. -/
theorem Builds.isRootOf_iff {m n : Node}
    (h : Builds cat room .empty (.type t given) (.node m) L) :
    IsRootOf L m n ↔ n = rooted L m := by
  unfold IsRootOf
  rw [ne_eq, ← definitions_eq_nil_iff, rooted]
  split
  · next hnone =>
    -- What is compiled has no definitions before, so that leaving them out changes nothing.
    have hbare : ∀ k, m.withDefinitions? none = some k → k = m := by
      rcases h.rooted_cases with ⟨items, d, ds, rfl, -⟩ | ⟨ps, required, d, ds, rfl, -⟩ |
        ⟨-, -, ⟨kind, d, rfl⟩ | ⟨values, d, rfl⟩⟩ <;> simp [Node.withDefinitions?, eq_comm]
    simpa [hnone] using fun _ => hbare
  · next hsome =>
    obtain ⟨k, hk⟩ := Option.isSome_iff_exists.mp (h.takes_definitions.resolve_left hsome)
    rw [hk, Option.getD_some, Option.some_inj, eq_comm (a := k)]
    exact ⟨fun h => (h.resolve_left fun hnone => hsome hnone.1).2, fun h => .inr ⟨hsome, h⟩⟩

end Compile

namespace Catalog

open Compile

variable {cat : Catalog} {limit : Int} {t : TypeExpr}

/-- The test of a root finds an object class just where the chain for elements comes to one. -/
theorem isObject_iff_form {given : Option Json} :
    (∃ core found c, t.unwrap = .ok (core, found) ∧ core.rawClass? = some c ∧
      cat.isObject c = true) ↔ ∃ c d, cat.form t given = .ok (.object c d) := by
  constructor
  · rintro ⟨core, found, c, hunwrap, hclass, hobject⟩
    exact ⟨c, _, form_of_object hunwrap hclass (kindOf_eq_object_iff.mpr hobject) given⟩
  · rintro ⟨c, d, hform⟩
    obtain ⟨core, found, hunwrap, hclass, hkind⟩ := object_of_form hform
    exact ⟨core, found, c, hunwrap, hclass, kindOf_eq_object_iff.mp hkind⟩

theorem build_eq_error_iff (hlimit : 1 ≤ limit) {e : SchemaError} :
    cat.build limit t = .error e ↔ Throws (elementAt cat limit 0 t none .root) .empty e := by
  rw [elementAt, roomAt_zero hlimit, element_throws_iff]
  constructor
  · intro h
    rcases build_fails h with ⟨hlow, -⟩ | ⟨-, hfails⟩
    · omega
    · exact hfails
  · intro hfails
    cases hbuild : cat.build limit t with
    | error e' =>
        rcases build_fails hbuild with ⟨hlow, -⟩ | ⟨-, hfails'⟩
        · omega
        · rw [hfails'.unique hfails]
    | ok n =>
        obtain ⟨-, m, hm, -⟩ := build_builds hbuild
        exact absurd hfails hm.not_fails

theorem build_eq_ok_iff (hlimit : 1 ≤ limit) {n : Node} :
    cat.build limit t = .ok n ↔
      ∃ m L, Yields (elementAt cat limit 0 t none .root) .empty m L ∧ IsRootOf L m n := by
  rw [elementAt, roomAt_zero hlimit]
  constructor
  · intro h
    obtain ⟨-, m, hm, hn⟩ := build_builds h
    exact ⟨m, cat.visits limit t, element_yields_iff.mpr hm, hm.isRootOf_iff.mpr hn⟩
  · rintro ⟨m, L, hyields, hroot⟩
    have hm := element_yields hyields
    cases hbuild : cat.build limit t with
    | error e =>
        rcases build_fails hbuild with ⟨hlow, -⟩ | ⟨-, hfails⟩
        · omega
        · exact absurd hfails hm.not_fails
    | ok n' =>
        obtain ⟨-, m', hm', hn'⟩ := build_builds hbuild
        obtain ⟨hnode, hledger⟩ := hm'.unique hm
        obtain rfl := Result.node.inj hnode
        rw [hn', hledger, ← hm.isRootOf_iff.mp hroot]

/-- The root of a type is the node that the chain for elements makes of it, with the definitions of
the ledger that is left then, and it fails with the error with which the chain does. The test of a
root says `object` just where the chain does, whatever wraps the type. -/
theorem build_iff_element (hlimit : 1 ≤ limit) (t : TypeExpr) :
    (∀ e, cat.build limit t = .error e ↔
      Throws (elementAt cat limit 0 t none .root) .empty e) ∧
    (∀ n, cat.build limit t = .ok n ↔
      ∃ m L, Yields (elementAt cat limit 0 t none .root) .empty m L ∧ IsRootOf L m n) ∧
    ∀ given, (∃ core found c, t.unwrap = .ok (core, found) ∧ core.rawClass? = some c ∧
        cat.isObject c = true) ↔ ∃ c d, cat.form t given = .ok (.object c d) :=
  ⟨fun _ => build_eq_error_iff hlimit, fun _ => build_eq_ok_iff hlimit, fun _ => isObject_iff_form⟩

/-- Two classes of this program are recursive, so its root is the node of the element path with two
definitions; without room for the members both paths fail. -/
theorem build_iff_element_households :
    (∃ n m L, households.build 8 (ClassRef.declared 0).toExpr = .ok n ∧ n.definitions.length = 2 ∧
      Yields (elementAt households 8 0 (ClassRef.declared 0).toExpr none .root) .empty m L ∧
      IsRootOf L m n) ∧
    ∃ e, households.build 1 (ClassRef.declared 0).toExpr = .error e ∧
      Throws (elementAt households 1 0 (ClassRef.declared 0).toExpr none .root) .empty e := by
  have hlimits : (1 : Int) ≤ 8 ∧ (1 : Int) ≤ 1 := by decide
  obtain ⟨n, hn, hlength⟩ := exists_build_households
  obtain ⟨m, L, hyields, hroot⟩ := ((build_iff_element hlimits.1 _).2.1 n).mp hn
  obtain ⟨place, herror⟩ : ∃ place, households.build 1 (ClassRef.declared 0).toExpr =
      .error (.tooDeep 1 place) := ⟨_, rfl⟩
  exact ⟨⟨n, m, L, hn, hlength, hyields, hroot⟩, _, herror,
    ((build_iff_element hlimits.2 _).1 _).mp herror⟩

end Catalog

end TypeSchema
