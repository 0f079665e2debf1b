import Mathlib.Tactic.Common
import TypeSchema.SchemaError
/-!
# What the texts of type expressions depend on

The text of a type expression names the classes in it and shows the instances among its metadata.
`SameTexts i cat cat'` says that two catalogs name all classes alike and show the instances of all
classes but one alike. Type expressions without an instance of that class have the same text in both
(`SameTexts.display`), and so have the errors that show such expressions only
(`SameTexts.errorMessage`).
-/

namespace TypeSchema

namespace TypeExpr

mutual

/-- Whether an instance of a class stands in a type expression. -/
def hasInstanceOf (i : ClassId) : TypeExpr → Bool
  | .cls _ args | .subscript _ args | .literal args | .union _ args | .group _ args =>
    anyHasInstanceOf i args
  | .annotated inner metadata => hasInstanceOf i inner || anyHasInstanceOf i metadata
  | .initVar _ inner | .unpacked inner | .method inner _ => hasInstanceOf i inner
  | .member id _ value => id = i || hasInstanceOf i value
  | .object _ id values => id = i || anyHasInstanceOf i values
  | _ => false

/-- Whether an instance of a class stands in one of some type expressions. -/
def anyHasInstanceOf (i : ClassId) : List TypeExpr → Bool
  | [] => false
  | t :: ts => hasInstanceOf i t || anyHasInstanceOf i ts

end

theorem anyHasInstanceOf_eq_false_iff {i : ClassId} {ts : List TypeExpr} :
    anyHasInstanceOf i ts = false ↔ ∀ t ∈ ts, t.hasInstanceOf i = false := by
  induction ts with
  | nil => simp [anyHasInstanceOf]
  | cons t ts ih => simp [anyHasInstanceOf, ih]

end TypeExpr

/-- Two catalogs name every class alike. -/
structure SameNames (cat cat' : Catalog) : Prop where
  name (id : ClassId) : (cat.info id).name = (cat'.info id).name
  qualname (id : ClassId) : (cat.info id).qualname = (cat'.info id).qualname

/-- Two catalogs show every class alike, and the instances of all classes but one. -/
structure SameTexts (i : ClassId) (cat cat' : Catalog) : Prop extends SameNames cat cat' where
  module (c : ClassRef) : cat.moduleOf c = cat'.moduleOf c
  enumeration (c : ClassRef) : cat.isEnumeration c = cat'.isEnumeration c
  flag (c : ClassRef) : cat.derives c .flag = cat'.derives c .flag
  shownFields {id : ClassId} : id ≠ i → cat.shownFields? id = cat'.shownFields? id
  shownNames {id : ClassId} (name : String) :
    id ≠ i → cat.shownNames? id name = cat'.shownNames? id name

/-! ## Names -/

namespace SameNames

open Catalog

variable {cat cat' : Catalog} (h : SameNames cat cat')

include h

theorem nameWith (id : ClassId) (labels : List String) :
    cat.nameWith id labels = cat'.nameWith id labels := by
  simp only [Catalog.nameWith, h.name, h.qualname]

theorem kindLabel (t : TypeExpr) : cat.kindLabel t = cat'.kindLabel t := by
  unfold Catalog.kindLabel
  split <;> simp only [h.qualname]

/-- Labels are made of names. -/
theorem label (t : TypeExpr) : cat.label t = cat'.label t := by
  revert t
  refine (?_ : (∀ t, cat.valueLabel t = cat'.valueLabel t) ∧
    (∀ t, cat.label t = cat'.label t) ∧ (∀ ts, cat.valueLabels ts = cat'.valueLabels ts) ∧
    ∀ ts, cat.labels ts = cat'.labels ts).2.1
  apply valueLabel.mutual_induct cat (fun t => cat.valueLabel t = cat'.valueLabel t)
    (fun t => cat.label t = cat'.label t) (fun ts => cat.valueLabels ts = cat'.valueLabels ts)
    (fun ts => cat.labels ts = cat'.labels ts)
  case case13 =>
    -- A head in brackets that is not that of a callable.
    intro head args _ _ _ ih
    rw [label.eq_def, label.eq_def cat']
    cases head <;> simp_all [h.name, h.qualname]
  all_goals intros
  all_goals simp_all [valueLabel, Catalog.label, labels, valueLabels, h.nameWith, h.kindLabel]

theorem qualnameOf (c : ClassRef) : cat.qualnameOf c = cat'.qualnameOf c := by
  have hlabels : cat.argumentLabels c.args = cat'.argumentLabels c.args := by
    refine List.map_congr_left fun t _ => ?_
    split <;> simp only [h.label]
  rw [Catalog.qualnameOf, Catalog.qualnameOf, hlabels, h.nameWith]

theorem nameOf (c : ClassRef) : cat.nameOf c = cat'.nameOf c := by
  rw [Catalog.nameOf, Catalog.nameOf, h.qualnameOf, h.name]

theorem nameOf? (t : TypeExpr) : cat.nameOf? t = cat'.nameOf? t := by
  unfold Catalog.nameOf?
  split <;> simp only [h.nameOf, h.name]

theorem qualnameOf? (t : TypeExpr) : cat.qualnameOf? t = cat'.qualnameOf? t := by
  unfold Catalog.qualnameOf?
  split <;> simp only [h.qualnameOf, h.qualname, h.nameOf?]

end SameNames

/-! ## Texts -/

namespace SameTexts

open Catalog TypeExpr

theorem displayCallable_eq (cat cat' : Catalog) (head : String) (args : List TypeExpr)
    (texts : List String) :
    cat.displayCallable head args texts = cat'.displayCallable head args texts := by
  rw [displayCallable.eq_def, displayCallable.eq_def cat']

variable {i : ClassId} {cat cat' : Catalog} (h : SameTexts i cat cat')

include h

theorem displayClass (place : Place) (c : ClassRef) :
    cat.displayClass place c = cat'.displayClass place c := by
  simp only [Catalog.displayClass, displayAlone, h.module, h.enumeration, h.flag, h.nameOf,
    h.qualnameOf]

theorem displayInstanceClass (c : ClassRef) :
    cat.displayInstanceClass c = cat'.displayInstanceClass c := by
  simp only [Catalog.displayInstanceClass, h.module, h.qualnameOf]

/-- Something in brackets is shown alike if its arguments are. -/
theorem displayAt_subscript (place : Place) (head : Head) {args : List TypeExpr}
    (hargs : ∀ place, cat.displayAll place args = cat'.displayAll place args) :
    cat.displayAt place (.subscript head args) = cat'.displayAt place (.subscript head args) := by
  rw [displayAt.eq_def, displayAt.eq_def cat']
  cases head with
  | direct id =>
      by_cases hid : id = .builtin .abcCallable
      · subst hid
        simp only [hargs, displayCallable_eq cat cat']
      · dsimp only
        split <;> simp_all [h.displayClass]
  | flat id => simp only [hargs, h.displayClass]
  | generic id => simp only [hargs, h.displayClass]
  | typingName a => cases a <;> simp only [hargs, displayCallable_eq cat cat']
  | form f => cases f <;> simp only [hargs]

/-- An instance is shown alike if its values are, and the fields of its class. -/
theorem displayAt_object (place : Place) (n : Option Nat) {id : ClassId} (hid : id ≠ i)
    {values : List TypeExpr}
    (hvalues : ∀ place, cat.displayAll place values = cat'.displayAll place values)
    (hitems : ∀ g items, values = [.group g items] →
      cat.displayAll .whole items = cat'.displayAll .whole items ∧
      cat.displayNamed items = cat'.displayNamed items) :
    cat.displayAt place (.object n id values) = cat'.displayAt place (.object n id values) := by
  have hfields : cat.shownFields? id = cat'.shownFields? id := h.shownFields hid
  rw [displayAt.eq_def, displayAt.eq_def cat']
  dsimp only
  split
  all_goals simp_all [h.displayInstanceClass, displayAll]

omit h

mutual

/-- A type expression without an instance of the class is shown alike everywhere. -/
theorem displayAt (h : SameTexts i cat cat') (place : Place) (t : TypeExpr)
    (ht : t.hasInstanceOf i = false) :
    cat.displayAt place t = cat'.displayAt place t := by
  -- The cases of the printer overlap, so that it has no equation for each kind of expression.
  cases t with
  | subscript head args => exact h.displayAt_subscript place head fun p => displayAll h p args ht
  | object n id values =>
      obtain ⟨hid, hvalues⟩ := Bool.or_eq_false_iff.mp ht
      refine h.displayAt_object place n (of_decide_eq_false hid)
        (fun p => displayAll h p values hvalues) fun g items heq => ?_
      subst heq
      have hitems : anyHasInstanceOf i items = false := (Bool.or_eq_false_iff.mp hvalues).1
      exact ⟨displayAll h .whole items hitems, displayNamed h items hitems⟩
  | cls id args =>
      rw [Catalog.displayAt.eq_def, Catalog.displayAt.eq_def cat']
      simp only [h.displayClass]
  | literal values =>
      rw [Catalog.displayAt.eq_def, Catalog.displayAt.eq_def cat']
      simp only [displayAll h .argument values ht]
  | union style members =>
      rw [Catalog.displayAt.eq_def, Catalog.displayAt.eq_def cat']
      cases style with
      | named => simp only [displayAll h .argument members ht]
      | bars => simp only [displayBars h members ht]
  | annotated inner metadata =>
      obtain ⟨hinner, hmetadata⟩ := Bool.or_eq_false_iff.mp ht
      rw [Catalog.displayAt.eq_def, Catalog.displayAt.eq_def cat']
      simp only [displayAt h .argument inner hinner, displayAll h .whole metadata hmetadata]
  | initVar n inner =>
      have hinner := displayAt h .whole inner ht
      rw [Catalog.displayAt.eq_def, Catalog.displayAt.eq_def cat']
      cases inner <;> simp only [hinner, h.nameOf]
  | unpacked inner =>
      rw [Catalog.displayAt.eq_def, Catalog.displayAt.eq_def cat']
      simp only [displayAt h .whole inner ht]
  | group g items =>
      rw [Catalog.displayAt.eq_def, Catalog.displayAt.eq_def cat']
      cases g with
      | dict => simp only [displayEntries h items ht]
      | _ => simp only [displayAll h .whole items ht]
  | member id name value =>
      obtain ⟨hid, hvalue⟩ := Bool.or_eq_false_iff.mp ht
      rw [Catalog.displayAt.eq_def, Catalog.displayAt.eq_def cat']
      simp only [h.shownNames name (of_decide_eq_false hid), h.qualnameOf, h.nameOf,
        displayAt h .whole value hvalue]
  | method owner name =>
      have howner := displayAt h .whole owner ht
      rw [Catalog.displayAt.eq_def, Catalog.displayAt.eq_def cat']
      cases owner <;> simp only [howner, h.name]
  | forwardRef text module declares =>
      rw [Catalog.displayAt.eq_def, Catalog.displayAt.eq_def cat']
      cases module <;> rfl
  | constant c =>
      rw [Catalog.displayAt.eq_def, Catalog.displayAt.eq_def cat']
      cases c <;> rfl
  | _ => rw [Catalog.displayAt.eq_def, Catalog.displayAt.eq_def cat']
termination_by sizeOf t

theorem displayAll (h : SameTexts i cat cat') (place : Place) (ts : List TypeExpr)
    (hts : anyHasInstanceOf i ts = false) :
    cat.displayAll place ts = cat'.displayAll place ts := by
  cases ts with
  | nil => rfl
  | cons t ts =>
      obtain ⟨ht, hts⟩ := Bool.or_eq_false_iff.mp hts
      rw [Catalog.displayAll, Catalog.displayAll, displayAt h place t ht, displayAll h place ts hts]
termination_by sizeOf ts

theorem displayBars (h : SameTexts i cat cat') (ts : List TypeExpr)
    (hts : anyHasInstanceOf i ts = false) :
    cat.displayBars ts = cat'.displayBars ts := by
  cases ts with
  | nil => rfl
  | cons t ts =>
      obtain ⟨ht, hts⟩ := Bool.or_eq_false_iff.mp hts
      have hhead := displayAt h .item t ht
      rw [Catalog.displayBars.eq_def, Catalog.displayBars.eq_def cat']
      simp only [displayBars h ts hts]
      split <;> simp only [hhead]
termination_by sizeOf ts

theorem displayNamed (h : SameTexts i cat cat') (ts : List TypeExpr)
    (hts : anyHasInstanceOf i ts = false) :
    cat.displayNamed ts = cat'.displayNamed ts := by
  cases ts with
  | nil => rfl
  | cons t ts =>
      obtain ⟨ht, hts⟩ := Bool.or_eq_false_iff.mp hts
      have hrest := displayNamed h ts hts
      by_cases hentry : ∃ name value, t = .group .tuple [.constant (.string name), value]
      · obtain ⟨name, value, rfl⟩ := hentry
        have hvalue : value.hasInstanceOf i = false := by
          simpa [hasInstanceOf, anyHasInstanceOf] using ht
        rw [Catalog.displayNamed, Catalog.displayNamed, displayAt h .whole value hvalue, hrest]
      · rw [Catalog.displayNamed.eq_def, Catalog.displayNamed.eq_def cat']
        split <;> simp_all
termination_by sizeOf ts

theorem displayEntries (h : SameTexts i cat cat') (ts : List TypeExpr)
    (hts : anyHasInstanceOf i ts = false) :
    cat.displayEntries ts = cat'.displayEntries ts := by
  cases ts with
  | nil => rfl
  | cons t ts =>
      obtain ⟨ht, hts⟩ := Bool.or_eq_false_iff.mp hts
      have hrest := displayEntries h ts hts
      by_cases hentry : ∃ key value, t = .group .tuple [key, value]
      · obtain ⟨key, value, rfl⟩ := hentry
        obtain ⟨hkey, hvalue⟩ : key.hasInstanceOf i = false ∧ value.hasInstanceOf i = false := by
          simpa [hasInstanceOf, anyHasInstanceOf] using ht
        rw [Catalog.displayEntries, Catalog.displayEntries, displayAt h .whole key hkey,
          displayAt h .whole value hvalue, hrest]
      · rw [Catalog.displayEntries.eq_def, Catalog.displayEntries.eq_def cat']
        split <;> simp_all
termination_by sizeOf ts

end

include h

/-! ## Messages -/

/-- A type expression without an instance of the class has one text. -/
theorem display {t : TypeExpr} (ht : t.hasInstanceOf i = false) : cat.display t = cat'.display t :=
  h.displayAt .whole t ht

/-- Identifiers are made of names. -/
theorem referenceId (c : ClassRef) : cat.referenceId c.toExpr = cat'.referenceId c.toExpr := by
  have hdisplay : cat.display c.toExpr = cat'.display c.toExpr := h.displayClass .whole c
  have hmodule : cat.moduleOf? c.toExpr = cat'.moduleOf? c.toExpr := h.module c
  simp only [Catalog.referenceId, qualifiedName, h.qualnameOf?, h.nameOf?, hdisplay, hmodule]

theorem ownerName {owner : TypeExpr} (howner : owner.hasInstanceOf i = false) :
    cat.ownerName owner = cat'.ownerName owner := by
  rw [Catalog.ownerName, Catalog.ownerName, h.qualnameOf?, h.display howner]

end SameTexts

/-- The type expressions that the text of a cause shows. -/
def Unresolvable.shown : Unresolvable → List TypeExpr
  | .noAlternative (.severalAlternatives t) | .noAlternative (.unconstrained t)
  | .noSingleElement t | .noElement t | .unsupported t => [t]
  | .undefinedName _ _ => []

/-- The type expressions that the text of an error shows. -/
def SchemaError.shown : SchemaError → List TypeExpr
  | .unresolvable cause place => cause.shown ++ place.owner.toList
  | .tooDeep _ place => place.owner.toList
  | .nonPositiveLimit _ | .unreadable _ | .unknownKind _ => []

namespace SameTexts

variable {i : ClassId} {cat cat' : Catalog} (h : SameTexts i cat cat')

include h

theorem unresolvableMessage {cause : Unresolvable}
    (hshown : ∀ t ∈ cause.shown, t.hasInstanceOf i = false) :
    cat.unresolvableMessage cause = cat'.unresolvableMessage cause := by
  have hdisplay : ∀ t ∈ cause.shown, cat.display t = cat'.display t :=
    fun t ht => h.display (hshown t ht)
  unfold Catalog.unresolvableMessage
  cases cause with
  | noAlternative cause =>
      unfold Catalog.unwrapMessage
      cases cause <;> simp only [hdisplay _ List.mem_cons_self]
  | undefinedName absence name => rfl
  | _ => simp only [hdisplay _ List.mem_cons_self]

/-- An error has one text if what it shows has one. -/
theorem errorMessage {e : SchemaError} (hshown : ∀ t ∈ e.shown, t.hasInstanceOf i = false) :
    cat.errorMessage e = cat'.errorMessage e := by
  cases e with
  | unresolvable cause place =>
      have hcause : ∀ t ∈ cause.shown, t.hasInstanceOf i = false :=
        fun t ht => hshown t (List.mem_append_left _ ht)
      have howner : place.owner.map cat.ownerName = place.owner.map cat'.ownerName :=
        Option.map_congr fun t ht => h.ownerName (hshown t (List.mem_append_right _ (by simp [ht])))
      unfold Catalog.errorMessage Catalog.locationSuffix
      simp only [h.unresolvableMessage hcause, howner]
  | tooDeep limit place =>
      have hname : cat.qualnameOf? = cat'.qualnameOf? := funext h.qualnameOf?
      unfold Catalog.errorMessage Catalog.path
      simp only [hname]
  | _ => rfl

end SameTexts

end TypeSchema
