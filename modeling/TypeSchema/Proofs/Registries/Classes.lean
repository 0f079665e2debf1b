import TypeSchema.Proofs.Display
/-!
# Classes and their texts do not depend on the registries

`Catalog.relist` puts other registries into a catalog. Nothing but the lookup of a description or of
a registered field list sees the difference. That is shown function by function, from the bottom up.
A function that only follows the fields of the catalog is the same by `rfl`, and has a lemma only
where one is asked for by name. One that shows a type expression, or that recurs, is not: it has a
lemma that takes `relist` away from its catalog, and the functions that call it are unfolded and
rewritten.

This module goes as far as the text of a type expression (`Catalog.relist_display`).
-/

namespace TypeSchema

/-- A class that is as large as a type expression has no instance in it. -/
theorem TypeExpr.hasInstanceOf_of_sizeOf_le (i : ClassId) (t : TypeExpr) :
    sizeOf t ≤ sizeOf i → t.hasInstanceOf i = false := by
  revert t
  refine (?_ : (∀ t : TypeExpr, sizeOf t ≤ sizeOf i → t.hasInstanceOf i = false) ∧
    ∀ ts : List TypeExpr, sizeOf ts ≤ sizeOf i → anyHasInstanceOf i ts = false).1
  apply hasInstanceOf.mutual_induct
  all_goals
    grind [hasInstanceOf, anyHasInstanceOf, cls.sizeOf_spec, subscript.sizeOf_spec,
      literal.sizeOf_spec, union.sizeOf_spec, group.sizeOf_spec, annotated.sizeOf_spec,
      initVar.sizeOf_spec, unpacked.sizeOf_spec, method.sizeOf_spec, member.sizeOf_spec,
      object.sizeOf_spec, List.cons.sizeOf_spec]

namespace Catalog

/-- The same catalog with other registries. -/
def relist (cat : Catalog) (descriptions : List (TypeExpr × String))
    (registered : List (ClassRef × List SchemaField)) : Catalog :=
  { cat with descriptions, registered }

variable (cat : Catalog) (d : List (TypeExpr × String)) (r : List (ClassRef × List SchemaField))

@[simp] theorem relist_ownNames : (cat.relist d r).ownNames = cat.ownNames := rfl
@[simp] theorem relist_info : (cat.relist d r).info = cat.info := rfl
@[simp] theorem relist_isModel : (cat.relist d r).isModel = cat.isModel := rfl
@[simp] theorem relist_attribute? : (cat.relist d r).attribute? = cat.attribute? := rfl
@[simp] theorem relist_dataclassFields? :
    (cat.relist d r).dataclassFields? = cat.dataclassFields? := rfl

/-! ## Texts -/

@[simp] theorem relist_kindName : (cat.relist d r).kindName = cat.kindName := rfl

theorem relist_sameNames : SameNames (cat.relist d r) cat where
  name _ := rfl
  qualname _ := rfl

@[simp] theorem relist_qualnameOf : (cat.relist d r).qualnameOf = cat.qualnameOf :=
  funext (cat.relist_sameNames d r).qualnameOf

@[simp] theorem relist_nameOf : (cat.relist d r).nameOf = cat.nameOf :=
  funext (cat.relist_sameNames d r).nameOf

@[simp] theorem relist_nameOf? : (cat.relist d r).nameOf? = cat.nameOf? :=
  funext (cat.relist_sameNames d r).nameOf?

@[simp] theorem relist_shownFields? : (cat.relist d r).shownFields? = cat.shownFields? := by
  funext id
  unfold shownFields?
  rw [relist_nameOf, relist_qualnameOf]
  rfl

theorem relist_sameTexts (i : ClassId) : SameTexts i (cat.relist d r) cat where
  toSameNames := cat.relist_sameNames d r
  module _ := rfl
  enumeration _ := rfl
  flag _ := rfl
  shownFields _ := congrFun (cat.relist_shownFields? d r) _
  shownNames _ _ := rfl

-- `SameTexts` leaves out the instances of a class. Here one can be taken that has none in the text.
@[simp] theorem relist_display : (cat.relist d r).display = cat.display := by
  funext t
  have hfresh : t.hasInstanceOf (.declared (sizeOf t)) = false :=
    t.hasInstanceOf_of_sizeOf_le (.declared (sizeOf t)) (by simp)
  exact (cat.relist_sameTexts d r _).display hfresh

end Catalog

end TypeSchema
