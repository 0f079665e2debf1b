import TypeSchema.Proofs.ClassGraph
import TypeSchema.Proofs.Compile.Failure
import TypeSchema.Proofs.Display
/-!
# What errors show

An error of a compilation shows type expressions that the compilation met: parts of the root, and
of the data members of classes that the root reaches. If no instance of some class stands in these,
none stands in what the error shows (`Fails.shown`), and so the error has the same text in all
catalogs that name classes alike (`errorMessage_eq_of_build`).
-/

namespace TypeSchema

namespace TypeExpr

variable {i : ClassId}

/-- What a type expression is unwrapped to, or what keeps it from being unwrapped, has no instance
of a class. -/
def UnwrapsWithout (i : ClassId) : Except UnwrapError (TypeExpr × Option String) → Prop
  | .ok (core, _) => core.hasInstanceOf i = false
  | .error cause => ∀ t ∈ (Unresolvable.noAlternative cause).shown, t.hasInstanceOf i = false

mutual

/-- What stands inside wrappers, or keeps them from being taken off, is a part of the expression. -/
theorem unwrapsWithout_unwrap (t : TypeExpr) (ht : t.hasInstanceOf i = false) :
    UnwrapsWithout i t.unwrap := by
  cases t with
  | annotated inner metadata =>
      have hinner := unwrapsWithout_unwrap inner (Bool.or_eq_false_iff.mp ht).1
      rw [unwrap_annotated]
      cases hunwrap : inner.unwrap <;> rw [hunwrap] at hinner <;> exact hinner
  | union style members =>
      rw [unwrap]
      split
      · exact unwrapsWithout_unwrapSole members ht
      · simpa [UnwrapsWithout, Unresolvable.shown] using ht
  | _ =>
      rw [unwrap_of_bare (by simp) (by simp)]
      split
      · simpa [UnwrapsWithout, Unresolvable.shown] using ht
      · exact ht

theorem unwrapsWithout_unwrapSole (ts : List TypeExpr) (hts : anyHasInstanceOf i ts = false) :
    UnwrapsWithout i (unwrapSole ts) := by
  cases ts with
  | nil => simp [unwrapSole, UnwrapsWithout, Unresolvable.shown, hasInstanceOf, anyHasInstanceOf]
  | cons t ts =>
      obtain ⟨ht, hts⟩ := Bool.or_eq_false_iff.mp hts
      rw [unwrapSole]
      split
      · exact unwrapsWithout_unwrapSole ts hts
      · exact unwrapsWithout_unwrap t ht

end

variable {t origin item : TypeExpr} {c : ClassRef}

/-- What stands before brackets is a bare class or a form. -/
theorem hasInstanceOf_origin (h : t.origin? = some origin) : origin.hasInstanceOf i = false := by
  fun_induction origin? t with
  | case7 inner ih => exact ih h
  | case13 => exact absurd h (by simp)
  | _ =>
      obtain rfl := Option.some.inj h
      rfl

/-- The class behind a type expression is a part of it. -/
theorem hasInstanceOf_rawClass (ht : t.hasInstanceOf i = false) (hc : t.rawClass? = some c) :
    c.toExpr.hasInstanceOf i = false := by
  rw [← eq_toExpr_of_asClass? hc, rawType]
  cases horigin : t.origin? with
  | none => exact ht
  | some origin => exact hasInstanceOf_origin horigin

/-- The arguments of a callable are parts of what stands in its brackets. -/
theorem anyHasInstanceOf_callableArguments {args : List TypeExpr}
    (hargs : anyHasInstanceOf i args = false) :
    anyHasInstanceOf i (callableArguments args) = false := by
  have hmem := anyHasInstanceOf_eq_false_iff.mp hargs
  unfold callableArguments
  split
  · split
    · exact hargs
    · simpa [anyHasInstanceOf, hasInstanceOf] using hargs
  · have hinit : anyHasInstanceOf i args.dropLast = false :=
      anyHasInstanceOf_eq_false_iff.mpr fun t ht => hmem t (List.dropLast_subset args ht)
    have hlast : (args.getLastD noneType).hasInstanceOf i = false := by
      cases args with
      | nil => rfl
      | cons t ts => exact hmem _ (List.getLast_mem _)
    simp only [anyHasInstanceOf, hasInstanceOf, hinit, hlast, Bool.or_false]

/-- The arguments of a type expression are parts of it. -/
theorem anyHasInstanceOf_arguments (ht : t.hasInstanceOf i = false) :
    anyHasInstanceOf i t.arguments = false := by
  fun_induction arguments t with
  | case1 args | case2 args | case3 args => exact anyHasInstanceOf_callableArguments ht
  | case5 inner ih => exact ih ht
  | case9 => rfl
  | _ => exact ht

theorem eq_of_asElement? {t : TypeExpr} (h : t.asElement? = some item) : t = item := by
  unfold asElement? at h
  split at h
  · exact absurd h (by simp)
  · exact Option.some.inj h

theorem mem_arguments_of_elementOfTuple (h : t.elementOfTuple? = some item) :
    item ∈ t.arguments := by
  unfold elementOfTuple? at h
  split at h
  · next heq => exact heq ▸ eq_of_asElement? h ▸ List.mem_cons_self
  · exact absurd h (by simp)
  · next heq =>
    split at h
    · exact heq ▸ eq_of_asElement? h ▸ List.mem_cons_self
    · exact absurd h (by simp)

theorem mem_arguments_of_elementOfCollection (h : t.elementOfCollection? = some item) :
    item ∈ t.arguments := by
  unfold elementOfCollection? at h
  split at h
  · next heq => exact heq ▸ eq_of_asElement? h ▸ List.mem_cons_self
  · exact absurd h (by simp)

end TypeExpr

namespace Catalog

variable {cat : Catalog} {i : ClassId} {t : TypeExpr} {given d : Option Json}

/-- What keeps an expression from having a form shows parts of the expression. -/
theorem shown_of_form {cause : Unresolvable} (ht : t.hasInstanceOf i = false)
    (h : cat.form t given = .error cause) : ∀ s ∈ cause.shown, s.hasInstanceOf i = false := by
  have hunwrap := TypeExpr.unwrapsWithout_unwrap t ht
  unfold form at h
  split at h
  · next heq =>
    obtain rfl := Except.error.inj h
    rwa [heq] at hunwrap
  · next core found heq =>
    rw [heq] at hunwrap
    have hcore : ∀ s ∈ [core], s.hasInstanceOf i = false := List.forall_mem_singleton.mpr hunwrap
    split at h
    · obtain rfl := Except.error.inj h
      exact hcore
    · unfold formOf at h
      split at h
      case h_6 | h_7 =>
        unfold Form.ofItem at h
        split at h
        · obtain rfl := Except.error.inj h
          exact hcore
        · exact absurd h (by simp)
      all_goals exact absurd h (by simp)

theorem hasInstanceOf_of_unwrap {core : TypeExpr} {found : Option String}
    (ht : t.hasInstanceOf i = false) (h : t.unwrap = .ok (core, found)) :
    core.hasInstanceOf i = false := by
  have hunwrap := TypeExpr.unwrapsWithout_unwrap t ht
  rwa [h] at hunwrap

/-- The item of an array is a part of the expression. -/
theorem hasInstanceOf_item {item : TypeExpr} (ht : t.hasInstanceOf i = false)
    (h : cat.form t given = .ok (.array item d)) : item.hasInstanceOf i = false := by
  obtain ⟨core, found, c, hunwrap, -, hitem⟩ := array_of_form h
  have hargs := TypeExpr.anyHasInstanceOf_eq_false_iff.mp
    (TypeExpr.anyHasInstanceOf_arguments (hasInstanceOf_of_unwrap ht hunwrap))
  rcases hitem with ⟨-, hitem⟩ | ⟨-, hitem⟩
  · exact hargs item (TypeExpr.mem_arguments_of_elementOfTuple hitem)
  · exact hargs item (TypeExpr.mem_arguments_of_elementOfCollection hitem)

/-- The class of an object is a part of the expression. -/
theorem hasInstanceOf_object {c : ClassRef} (ht : t.hasInstanceOf i = false)
    (h : cat.form t given = .ok (.object c d)) : c.toExpr.hasInstanceOf i = false := by
  obtain ⟨core, found, hunwrap, hclass, -⟩ := object_of_form h
  exact TypeExpr.hasInstanceOf_rawClass (hasInstanceOf_of_unwrap ht hunwrap) hclass

end Catalog

namespace Compile

variable {cat : Catalog} {i : ClassId} {root : TypeExpr} {limit : Int} {room : Nat}
  {L : Ledger TypeExpr} {location : Location} {e : SchemaError}

/-- A task about expressions without an instance of a class, and about classes that the root
reaches. -/
def Avoids (cat : Catalog) (i : ClassId) (root : TypeExpr) : Task → Prop
  | .type t _ => t.hasInstanceOf i = false ∧ ∀ c, Leads cat t c → Reaches cat root c
  | .object c _ => c.toExpr.hasInstanceOf i = false ∧ Reaches cat root c
  | .members fields => ∀ f ∈ fields, f.type.hasInstanceOf i = false ∧
    ∀ c, Leads cat f.type c → Reaches cat root c

/-- No instance of a class stands in what an error shows, if none stands in the members of the
classes that are reached. -/
theorem Fails.shown {task : Task}
    (hfields : ∀ c fields, Reaches cat root c → cat.fieldsOf c = .ok fields →
      ∀ f ∈ fields, f.type.hasInstanceOf i = false)
    (h : Fails cat limit room L task location e) (htask : Avoids cat i root task)
    (howner : ∀ t ∈ location.owner, t.hasInstanceOf i = false) :
    ∀ t ∈ e.shown, t.hasInstanceOf i = false := by
  induction h with
  | tooDeep => exact fun t ht => howner t (Option.mem_toList.mp ht)
  | form hform =>
      exact List.forall_mem_append.mpr
        ⟨Catalog.shown_of_form htask.1 hform, fun t ht => howner t (Option.mem_toList.mp ht)⟩
  | array hform _ ih =>
      exact ih ⟨Catalog.hasInstanceOf_item htask.1 hform,
        fun c hc => htask.2 c ((Leads.iff_of_array hform).mpr hc)⟩ howner
  | object hform _ ih =>
      exact ih ⟨Catalog.hasInstanceOf_object htask.1 hform,
        htask.2 _ ((Leads.iff_of_object hform).mpr rfl)⟩ howner
  | @listing _ _ c _ _ cause _ _ =>
      cases cause <;> simp [membersError, SchemaError.shown, Unresolvable.shown, htask.1]
  | @fresh _ _ c _ _ fields _ _ hlisting _ ih =>
      obtain ⟨hclass, r, hr, hpath⟩ := htask
      refine ih (fun f hf => ⟨hfields c fields ⟨r, hr, hpath⟩ hlisting f hf, fun c' hc' => ?_⟩) ?_
      · exact ⟨r, hr, hpath.tail ⟨fields, hlisting, f, hf, hc'⟩⟩
      · simpa using hclass
  | head _ ih => exact ih (htask _ List.mem_cons_self) howner
  | tail _ _ ih => exact ih (fun f hf => htask f (List.mem_cons_of_mem _ hf)) howner

end Compile

namespace Catalog

open Compile

variable {cat cat' : Catalog} {i : ClassId} {t : TypeExpr} {limit : Int} {e : SchemaError}

/-- No instance of a class stands in what the error of a type shows, if none stands in the type and
in the members of the classes that it reaches. -/
theorem shown_of_build (ht : t.hasInstanceOf i = false)
    (hfields : ∀ c fields, Reaches cat t c → cat.fieldsOf c = .ok fields →
      ∀ f ∈ fields, f.type.hasInstanceOf i = false)
    (h : cat.build limit t = .error e) : ∀ s ∈ e.shown, s.hasInstanceOf i = false := by
  rcases build_fails h with ⟨-, rfl⟩ | ⟨-, hfails⟩
  · exact fun s hs => absurd hs List.not_mem_nil
  · exact hfails.shown hfields ⟨ht, fun c hc => ⟨c, hc, .refl⟩⟩ (by simp [Location.root])

end Catalog

end TypeSchema
