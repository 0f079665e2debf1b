import TypeSchema.Evaluation.Call
import TypeSchema.Proofs.Registries.Classes
/-!
# Operations on values do not depend on the registries

Comparing, converting, showing and calling values goes by their classes alone. The functions come in
the order of their modules. Those that only one other function uses are unfolded in its lemma; those
that recur are taken case by case along their recursion.
-/

namespace TypeSchema.Catalog

variable (cat : Catalog) (d : List (TypeExpr × String)) (r : List (ClassRef × List SchemaField))

/-! ## Kinds -/

@[simp] theorem relist_demanded : (cat.relist d r).demanded = cat.demanded := by
  funext demand value
  unfold demanded displayShort
  rw [relist_display]

@[simp] theorem relist_demandedAll : (cat.relist d r).demandedAll = cat.demandedAll := by
  funext demand values
  unfold demandedAll
  rw [relist_demanded]

mutual

theorem relist_belongs_apply (texts : MembershipTexts) (c : ClassRef) (t : TypeExpr) :
    (cat.relist d r).belongs texts c t = cat.belongs texts c t := by
  rw [belongs.eq_def, belongs.eq_def cat]
  split
  case h_4 items => exact relist_belongsToAny texts c items
  case h_5 style members => exact relist_belongsToAny texts c members
  all_goals rfl
termination_by sizeOf t

theorem relist_belongsToAny (texts : MembershipTexts) (c : ClassRef) (ts : List TypeExpr) :
    (cat.relist d r).belongsToAny texts c ts = cat.belongsToAny texts c ts := by
  cases ts with
  | nil => rfl
  | cons t ts =>
      simp only [belongsToAny, relist_belongs_apply texts c t, relist_belongsToAny texts c ts]
termination_by sizeOf ts

end

@[simp] theorem relist_belongs : (cat.relist d r).belongs = cat.belongs := by
  funext texts c t
  exact cat.relist_belongs_apply d r texts c t

@[simp] theorem relist_isInstance : (cat.relist d r).isInstance = cat.isInstance := by
  funext t owner
  unfold isInstance
  rw [relist_belongs]
  rfl

/-! ## Operators -/

@[simp] theorem relist_unionOfValues : (cat.relist d r).unionOfValues = cat.unionOfValues := by
  funext values
  unfold unionOfValues
  rw [relist_demandedAll]
  rfl

@[simp] theorem relist_entryOf : (cat.relist d r).entryOf = cat.entryOf := by
  funext entries key
  unfold entryOf
  rw [relist_display]
  rfl

@[simp] theorem relist_textOf : (cat.relist d r).textOf = cat.textOf := by
  funext t
  unfold textOf
  rw [relist_display, relist_nameOf]
  rfl

@[simp] theorem relist_inPlace : (cat.relist d r).inPlace = cat.inPlace := by
  funext flags width precision style t
  unfold inPlace
  rw [relist_display, relist_textOf]
  rfl

-- The recursions over a text take as many steps as they are given: the induction is on that number.
@[simp] theorem relist_fillPlaces : (cat.relist d r).fillPlaces = cat.fillPlaces := by
  funext whole steps place cs values
  induction steps generalizing place cs values with
  | zero => rw [fillPlaces, fillPlaces]
  | succ steps ih =>
      rw [fillPlaces.eq_def, fillPlaces.eq_def cat]
      split <;> simp_all only [Nat.succ.injEq, reduceCtorEq, relist_entryOf, relist_inPlace]

@[simp] theorem relist_combine : (cat.relist d r).combine = cat.combine := by
  funext op x y
  unfold combine interpolated union?
  rw [relist_fillPlaces, relist_unionOfValues]
  rfl

@[simp] theorem relist_compare : (cat.relist d r).compare = cat.compare := rfl

/-! ## Conversions -/

@[simp] theorem relist_printed : (cat.relist d r).printed = cat.printed := by
  funext t
  unfold printed
  rw [relist_display]

@[simp] theorem relist_converted : (cat.relist d r).converted = cat.converted := by
  funext conversion t
  unfold converted
  rw [relist_display, relist_textOf]

@[simp] theorem relist_formatted : (cat.relist d r).formatted = cat.formatted := by
  funext t layout
  unfold formatted
  rw [relist_textOf]
  rfl

/-! ## Brackets -/

@[simp] theorem relist_subscriptDirect :
    (cat.relist d r).subscriptDirect = cat.subscriptDirect := by
  funext id key
  unfold subscriptDirect
  rw [relist_printed]

@[simp] theorem relist_subscriptGeneric :
    (cat.relist d r).subscriptGeneric = cat.subscriptGeneric := by
  funext c key
  unfold subscriptGeneric
  rw [relist_display, relist_nameOf]
  rfl

@[simp] theorem relist_subscriptCallable :
    (cat.relist d r).subscriptCallable = cat.subscriptCallable := by
  funext key
  unfold subscriptCallable
  rw [relist_demanded]

@[simp] theorem relist_subscriptAlias : (cat.relist d r).subscriptAlias = cat.subscriptAlias := by
  funext t key
  unfold subscriptAlias subscriptTuple
  rw [relist_demandedAll, relist_subscriptCallable]

@[simp] theorem relist_subscriptForm : (cat.relist d r).subscriptForm = cat.subscriptForm := by
  funext f key
  unfold subscriptForm subscriptNewForm subscriptSingle concatenation
  rw [relist_demanded, relist_unionOfValues, relist_demandedAll]

@[simp] theorem relist_instanceAt : (cat.relist d r).instanceAt = cat.instanceAt := rfl
@[simp] theorem relist_modelAt : (cat.relist d r).modelAt = cat.modelAt := rfl

@[simp] theorem relist_subscriptHead : (cat.relist d r).subscriptHead = cat.subscriptHead := by
  funext head args
  unfold subscriptHead
  rw [relist_subscriptAlias, relist_subscriptCallable, relist_subscriptDirect,
    relist_subscriptForm, relist_subscriptGeneric]

/-- The type variables that are left, in one expression and in several. -/
theorem relist_openVars_and_all :
    (∀ t, (cat.relist d r).openVars t = cat.openVars t) ∧
      ∀ ts, (cat.relist d r).openVarsOfAll ts = cat.openVarsOfAll ts := by
  apply openVars.mutual_induct cat
  all_goals intros
  all_goals simp only [openVars, openVarsOfAll, relist_info, relist_isModel, *]

@[simp] theorem relist_openVars : (cat.relist d r).openVars = cat.openVars :=
  funext (cat.relist_openVars_and_all d r).1

@[simp] theorem relist_openVarsOfAll : (cat.relist d r).openVarsOfAll = cat.openVarsOfAll :=
  funext (cat.relist_openVars_and_all d r).2

/-- Variables are replaced alike, in one expression and in several. -/
theorem relist_replace_and_all (vars : Assignment) :
    (∀ t, (cat.relist d r).replace vars t = cat.replace vars t) ∧
      ∀ ts, (cat.relist d r).replaceAll vars ts = cat.replaceAll vars ts := by
  apply replace.mutual_induct cat vars
  all_goals intros
  all_goals
    simp +zetaDelta only [replace, replaceAll, relist_info, relist_isModel, relist_modelAt,
      relist_instanceAt, relist_subscriptHead, relist_unionOfValues, relist_openVarsOfAll,
      Bool.false_eq_true, if_true, if_false, *] at *

@[simp] theorem relist_replace : (cat.relist d r).replace = cat.replace :=
  funext fun vars => funext (cat.relist_replace_and_all d r vars).1

@[simp] theorem relist_replaceAll : (cat.relist d r).replaceAll = cat.replaceAll :=
  funext fun vars => funext (cat.relist_replace_and_all d r vars).2

@[simp] theorem relist_subscript : (cat.relist d r).subscript = cat.subscript := by
  funext value key
  unfold subscript subscriptClass memberNamed bareName subscriptModel modelParams
    subscriptAnnotated subscriptAgain subscriptNewly argumentValue
  rw [relist_entryOf, relist_subscriptAlias, relist_subscriptForm, relist_subscriptDirect,
    relist_subscriptGeneric, relist_display, relist_nameOf, relist_replaceAll, relist_openVars,
    relist_demanded]
  rfl

/-! ## Attributes -/

@[simp] theorem relist_instanceFields : (cat.relist d r).instanceFields = cat.instanceFields := rfl

@[simp] theorem relist_classAttribute : (cat.relist d r).classAttribute = cat.classAttribute := by
  funext c name
  unfold classAttribute classFact? classOwner?
  rw [relist_nameOf, relist_qualnameOf]
  rfl

@[simp] theorem relist_ownAttribute : (cat.relist d r).ownAttribute = cat.ownAttribute := rfl

@[simp] theorem relist_relayed : (cat.relist d r).relayed = cat.relayed := by
  funext t name ask
  unfold relayed
  rw [relist_nameOf?]
  rfl

@[simp] theorem relist_attributeOf : (cat.relist d r).attributeOf = cat.attributeOf := by
  funext t name
  induction t using attributeOf.induct cat name
  all_goals
    simp only [attributeOf, relist_classAttribute, relist_relayed, relist_ownAttribute,
      relist_instanceFields, relist_attribute?, *]

/-! ## Templates -/

@[simp] theorem relist_convertField : (cat.relist d r).convertField = cat.convertField := by
  funext conversion t
  unfold convertField
  rw [relist_converted]

@[simp] theorem relist_follow : (cat.relist d r).follow = cat.follow := by
  funext steps t cs
  induction steps generalizing t cs with
  | zero => rw [follow, follow]
  | succ steps ih =>
      rw [follow.eq_def, follow.eq_def cat]
      split <;> simp_all only [Nat.succ.injEq, reduceCtorEq, relist_attributeOf, relist_subscript]

@[simp] theorem relist_fillTemplate : (cat.relist d r).fillTemplate = cat.fillTemplate := by
  funext args depth steps count cs
  induction steps generalizing depth count cs with
  | zero => rw [fillTemplate, fillTemplate]
  | succ steps ih =>
      rw [fillTemplate.eq_def, fillTemplate.eq_def cat]
      split <;>
        simp_all only [Nat.succ.injEq, reduceCtorEq, relist_follow, relist_formatted,
          relist_convertField]

/-! ## Methods -/

@[simp] theorem relist_applyMethod : (cat.relist d r).applyMethod = cat.applyMethod := by
  funext owner name args
  unfold applyMethod applyOwnMethod applyListMethod applyDictMethod applySetMethod applyTextMethod
    filledTemplate applyTupleRecordMethod
  rw [relist_isInstance, relist_subscript, relist_combine, relist_display, relist_textOf,
    relist_fillTemplate]
  rfl

/-! ## Functions -/

@[simp] theorem relist_attributeOr? : (cat.relist d r).attributeOr? = cat.attributeOr? := by
  funext t name
  unfold attributeOr?
  rw [relist_attributeOf]

@[simp] theorem relist_insertRanked : (cat.relist d r).insertRanked = cat.insertRanked := by
  funext x ranked
  induction ranked with
  | nil => rfl
  | cons s rest ih => simp only [insertRanked, relist_compare, ih]

@[simp] theorem relist_makeIterator? : (cat.relist d r).makeIterator? = cat.makeIterator? := rfl

@[simp] theorem relist_applyFunction : (cat.relist d r).applyFunction = cat.applyFunction := by
  funext invoke name args
  unfold applyFunction getAttribute sorted sumOf quotientOf powerOf isSubclass
  rw [relist_attributeOf, relist_attributeOr?, relist_display, relist_formatted,
    relist_isInstance, relist_insertRanked, relist_combine, relist_belongs]
  rfl

@[simp] theorem relist_makeInstance : (cat.relist d r).makeInstance = cat.makeInstance := by
  funext c args
  unfold makeInstance memberOf makeBuiltin toAddress
  rw [relist_nameOf, relist_qualnameOf, relist_display, relist_textOf, relist_printed]
  rfl

@[simp] theorem relist_callWith : (cat.relist d r).callWith = cat.callWith := by
  funext invoke function args
  induction function using callWith.induct cat args
  all_goals
    simp only [callWith, relist_makeInstance, relist_makeIterator?, relist_applyFunction,
      relist_applyMethod, relist_kindName, *]

end TypeSchema.Catalog
