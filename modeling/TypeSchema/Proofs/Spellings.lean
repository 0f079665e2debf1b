import TypeSchema.Evaluation.Check
import TypeSchema.Proofs.Compile.Form
import TypeSchema.Proofs.Compile.Run
import TypeSchema.Proofs.Compile.Root
/-!
# Spellings of collections

An array type can be written in many ways: with a class, with the `typing` name of the class, or as
a tuple that goes on. They are compiled through two branches that look for the item in two ways, and
the `typing` names replace some arguments before. Still it does not matter which of them is written
(`elementAt_spelling`), unless the item is the plain value `None`: as an argument of a class it
stays that value, and then counts as no item at all.
-/

namespace TypeSchema

namespace TypeExpr

/-- What a `typing` name makes of an argument. Quoted types aside, it replaces only `None`. -/
def asArgument : TypeExpr → TypeExpr
  | .constant .none => .noneType
  | t => t

theorem typed_eq (t : TypeExpr) (module : Option String) (declares : Bool)
    (h : ∀ s, t ≠ .constant (.string s)) : typed t module declares = pure t.asArgument := by
  unfold typed asArgument
  split
  · rfl
  · next s => exact absurd rfl (h s)
  · split
    · next hnone _ => exact absurd rfl hnone
    · rfl

/-- The ways to write an array of some type. -/
inductive Spelling (t : TypeExpr) : TypeExpr → Prop
  | direct {b : Builtin} : b ∈ [.list, .set, .frozenset, .deque, .abcSequence, .abcIterable] →
      Spelling t (.subscript (.direct (.builtin b)) [t])
  | named {a : Alias} : a ∈ [.list, .set] → Spelling t (.subscript (.typingName a) [t.asArgument])
  | tuple : Spelling t (.subscript (.direct (.builtin .tuple)) [t, .constant .ellipsis])
  | namedTuple :
      Spelling t (.subscript (.typingName .tuple) [t.asArgument, .constant .ellipsis])

theorem asArgument_of_ne {t : TypeExpr} (h : t ≠ .constant .none) : t.asArgument = t := by
  unfold asArgument
  split
  · exact absurd rfl h
  · rfl

theorem asElement?_of_ne {t : TypeExpr} (h : t ≠ .constant .none) : t.asElement? = some t := by
  unfold asElement?
  split
  · exact absurd rfl h
  · rfl

end TypeExpr

namespace Catalog

open TypeExpr

variable {cat : Catalog} {t s s' : TypeExpr}

theorem kindOf_collection {b : Builtin}
    (hb : b ∈ [.list, .set, .frozenset, .deque, .abcSequence, .abcIterable]) :
    cat.kindOf (.builtin b) = .collection := by
  simp only [List.mem_cons, List.not_mem_nil, or_false] at hb
  rcases hb with rfl | rfl | rfl | rfl | rfl | rfl <;> rfl

theorem kindOf_tuple : cat.kindOf (.builtin .tuple) = .fixedArray := rfl

/-- A collection of one argument has the form of an array of it. -/
theorem form_collection {head : Head} {c : ClassRef} (ht : t ≠ .constant .none)
    (hclass : (TypeExpr.subscript head [t]).rawClass? = some c) (hkind : cat.kindOf c = .collection)
    (hargument : (TypeExpr.subscript head [t]).arguments = [t]) (given : Option Json) :
    cat.form (.subscript head [t]) given = .ok (.array t given) := by
  refine form_eq_ok_iff.mpr ⟨_, none, c, unwrap_subscript _ _, hclass, ?_⟩
  rw [formOf, hkind]
  simp [elementOfCollection?, hargument, asElement?_of_ne ht, Form.ofItem]

/-- A tuple that goes on has the form of an array of its first argument. -/
theorem form_tuple {head : Head} {c : ClassRef} (ht : t ≠ .constant .none)
    (hclass : (TypeExpr.subscript head [t, .constant .ellipsis]).rawClass? = some c)
    (hkind : cat.kindOf c = .fixedArray)
    (harguments : (TypeExpr.subscript head [t, .constant .ellipsis]).arguments =
      [t, .constant .ellipsis]) (given : Option Json) :
    cat.form (.subscript head [t, .constant .ellipsis]) given = .ok (.array t given) := by
  refine form_eq_ok_iff.mpr ⟨_, none, c, unwrap_subscript _ _, hclass, ?_⟩
  rw [formOf, hkind]
  simp [elementOfTuple?, harguments, asElement?_of_ne ht, Form.ofItem]

/-- Every spelling has the form of an array of the type. -/
theorem form_of_spelling (ht : t ≠ .constant .none) (hs : Spelling t s) (given : Option Json) :
    cat.form s given = .ok (.array t given) := by
  cases hs with
  | direct hb =>
      refine form_collection ht rfl (kindOf_collection hb) ?_ given
      simp only [List.mem_cons, List.not_mem_nil, or_false] at hb
      rcases hb with rfl | rfl | rfl | rfl | rfl | rfl <;> rfl
  | named ha =>
      rw [asArgument_of_ne ht]
      simp only [List.mem_cons, List.not_mem_nil, or_false] at ha
      rcases ha with rfl | rfl <;> exact form_collection ht rfl rfl rfl given
  | tuple => exact form_tuple ht rfl rfl rfl given
  | namedTuple =>
      rw [asArgument_of_ne ht]
      exact form_tuple ht rfl rfl rfl given

end Catalog

namespace Compile

open TypeExpr

variable {cat : Catalog} {limit depth : Int} {t s s' : TypeExpr} {given : Option Json}
  {location : Location} {L L' : Ledger TypeExpr} {n : Node}

/-- All spellings are compiled by the same steps. -/
theorem elementAt_spelling (ht : t ≠ .constant .none) (hs : Spelling t s) (hs' : Spelling t s') :
    elementAt cat limit depth s given location = elementAt cat limit depth s' given location := by
  unfold elementAt
  cases roomAt limit depth with
  | zero => rfl
  | succ room =>
      rw [element_succ, element_succ, Catalog.form_of_spelling ht hs,
        Catalog.form_of_spelling ht hs']

theorem roomAt_of_le (h : depth ≤ limit) : roomAt limit depth = roomAt limit (depth + 1) + 1 := by
  simp only [roomAt]
  omega

/-- What has the form of an array comes to the array of what its item comes to, if there is room for
both. -/
theorem yields_iff_of_form {d : Option Json} (hform : cat.form s given = .ok (.array t d)) :
    Yields (elementAt cat limit depth s given location) L n L' ↔
      depth ≤ limit ∧ ∃ items, Yields (elementAt cat limit (depth + 1) t none location) L items L' ∧
        n = .array items d none := by
  by_cases hdepth : depth ≤ limit
  · rw [elementAt, roomAt_of_le hdepth, element_succ, hform]
    dsimp only [array]
    simp only [yields_bind_iff, yields_pure_iff]
    constructor
    · rintro ⟨items, L₁, hitems, rfl, rfl⟩
      exact ⟨hdepth, items, hitems, rfl⟩
    · rintro ⟨-, items, hitems, rfl⟩
      exact ⟨items, L', hitems, rfl, rfl⟩
  · have hroom : roomAt limit depth = 0 := by
      simp only [roomAt]
      omega
    rw [elementAt, hroom, element]
    simp [hdepth]

/-- An argument of a class that is the plain value `None` is no item. Among the arguments of a
`typing` name there is no such value. -/
theorem elementAt_spelling_none (cat : Catalog) :
    Throws (elementAt cat 1 1 (.subscript (.direct (.builtin .list)) [.constant .none]) none .root)
      .empty (.unresolvable (.noElement (.subscript (.direct (.builtin .list)) [.constant .none]))
        .root) ∧
    Throws (elementAt cat 1 1 (.subscript (.typingName .list) [.noneType]) none .root) .empty
      (.tooDeep 1 .root) :=
  ⟨rfl, rfl⟩

/-- It does not matter how an array of a type is written, unless the type is the plain value `None`:
the outcome and the ledger are the same from every ledger, under every limit, at every depth, and
with every description. What comes of it is an array with the description. -/
theorem outcome_spelling_iff (cat : Catalog) (t : TypeExpr) :
    ((∀ s s', Spelling t s → Spelling t s' → ∀ limit depth given location L,
      outcome (elementAt cat limit depth s given location) L =
        outcome (elementAt cat limit depth s' given location) L) ↔ t ≠ .constant .none) ∧
    (t ≠ .constant .none → ∀ s, Spelling t s → ∀ limit depth given location L n L',
      Yields (elementAt cat limit depth s given location) L n L' ↔
        depth ≤ limit ∧
          ∃ items, Yields (elementAt cat limit (depth + 1) t none location) L items L' ∧
            n = .array items given none) := by
  refine ⟨⟨?_, fun ht s s' hs hs' limit depth given location L => ?_⟩,
    fun ht s hs limit depth given location L n L' =>
      yields_iff_of_form (Catalog.form_of_spelling ht hs given)⟩
  · rintro h rfl
    have hsame := h _ _ (.direct (b := .list) (by simp)) (.named (a := .list) (by simp)) 1 1 none
      .root .empty
    obtain ⟨hdirect, hnamed⟩ := elementAt_spelling_none cat
    exact absurd (hdirect.symm.trans ((congrArg Prod.fst hsame).trans hnamed)) (by simp)
  · rw [elementAt_spelling ht hs hs']

/-- A list of whole numbers, by its class and as a tuple that goes on. -/
theorem outcome_spelling_list_tuple :
    outcome (elementAt .empty 8 0
        (.subscript (.direct (.builtin .list)) [.builtin .int]) none .root) .empty =
      outcome (elementAt .empty 8 0
        (.subscript (.typingName .tuple) [.builtin .int, .constant .ellipsis]) none .root) .empty ∧
    ∃ n L, Yields (elementAt .empty 8 0
      (.subscript (.direct (.builtin .list)) [.builtin .int]) none .root) .empty n L := by
  have hint : TypeExpr.builtin .int ≠ .constant .none := by simp [TypeExpr.builtin]
  have hspellings := outcome_spelling_iff .empty (.builtin .int)
  refine ⟨hspellings.1.mpr hint _ _ (.direct (by simp)) .namedTuple 8 0 none .root .empty, _, _,
    (hspellings.2 hint _ (.direct (by simp)) 8 0 none .root .empty _ _).mpr
      ⟨by simp, .leaf .integer none, rfl, rfl⟩⟩

end Compile

namespace Catalog

/-- The two spellings of a list of `None`: the class keeps the plain value and finds no item, while
the `typing` name takes the class of `None`. -/
theorem build_spelling_none :
    Catalog.empty.build 8 (.subscript (.direct (.builtin .list)) [.constant .none]) =
      .error (.unresolvable (.noElement (.subscript (.direct (.builtin .list)) [.constant .none]))
        .root) ∧
    Catalog.empty.build 8 (.subscript (.typingName .list) [.noneType]) =
      .ok (.array (.object [] (some []) none none) none none) :=
  ⟨rfl, rfl⟩

end Catalog

end TypeSchema
