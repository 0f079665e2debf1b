import Mathlib.Data.List.Forall2
import TypeSchema.Proofs.ClassGraph
import TypeSchema.Proofs.Compile.Failure
/-!
# Catalogs that are compiled alike

A compilation asks a catalog what kind a class has, under which identifier and with which
description it goes, and what its data members are. `Agree cat cat'` says that two catalogs answer
the first questions alike for all classes. Their lists of data members need not be the same:
`SameMembers` asks for the same names, and for types and descriptions of the same forms.

A derivation in one catalog is then one in the other (`Builds.of_agree`, `Fails.of_agree`), and so
a type has the same root and fails with the same error, if the members of the classes that it
reaches are the same (`build_eq_of_agree`).
-/

namespace TypeSchema

/-- Two catalogs say the same of every class, its data members apart. -/
structure Agree (cat cat' : Catalog) : Prop where
  kind (c : ClassRef) : cat.kindOf c = cat'.kindOf c
  custom (c : ClassRef) : cat.isCustom c = cat'.isCustom c
  referenceId (c : ClassRef) : cat.referenceId c.toExpr = cat'.referenceId c.toExpr
  description (c : ClassRef) : cat.typeDescription? c.toExpr = cat'.typeDescription? c.toExpr
  memberNames {c : ClassRef} : cat.kindOf c = .enumeration → cat.memberNames c = cat'.memberNames c

/-- Two data members have one name and are compiled to the same. -/
structure SchemaField.Alike (cat : Catalog) (f f' : SchemaField) : Prop where
  name : f.name = f'.name
  form : cat.form f.type f.description = cat.form f'.type f'.description

theorem SchemaField.Alike.refl (cat : Catalog) (f : SchemaField) : f.Alike cat f := ⟨rfl, rfl⟩

/-- Two lists of data members are alike one by one, or there is none for the same cause. -/
inductive SameMembers (cat : Catalog) :
    Except EvalError (List SchemaField) → Except EvalError (List SchemaField) → Prop
  | error (cause : EvalError) : SameMembers cat (.error cause) (.error cause)
  | ok {fields fields' : List SchemaField} : List.Forall₂ (SchemaField.Alike cat) fields fields' →
      SameMembers cat (.ok fields) (.ok fields')

theorem SameMembers.refl (cat : Catalog) (listing : Except EvalError (List SchemaField)) :
    SameMembers cat listing listing := by
  cases listing with
  | error cause => exact .error cause
  | ok fields => exact .ok (List.forall₂_same.mpr fun f _ => .refl cat f)

/-- What is the same as a list of data members is such a list. -/
theorem SameMembers.exists_of_ok {cat : Catalog} {fields : List SchemaField}
    {listing : Except EvalError (List SchemaField)} (h : SameMembers cat (.ok fields) listing) :
    ∃ fields', listing = .ok fields' ∧ List.Forall₂ (SchemaField.Alike cat) fields fields' := by
  cases h with
  | ok halike => exact ⟨_, rfl, halike⟩

theorem SameMembers.eq_error {cat : Catalog} {cause : EvalError}
    {listing : Except EvalError (List SchemaField)} (h : SameMembers cat (.error cause) listing) :
    listing = .error cause := by
  cases h
  rfl

namespace Agree

variable {cat cat' : Catalog}

theorem withFallback (h : Agree cat cat') (d : Option Json) (c : ClassRef) :
    Compile.withFallback cat d c.toExpr = Compile.withFallback cat' d c.toExpr := by
  rw [Compile.withFallback, Compile.withFallback, h.description]

/-- A type expression has the same form in both. -/
theorem form (h : Agree cat cat') (t : TypeExpr) (given : Option Json) :
    cat.form t given = cat'.form t given := by
  unfold Catalog.form
  cases t.unwrap with
  | error cause => rfl
  | ok unwrapped =>
      dsimp only
      cases unwrapped.1.rawClass? with
      | none => rfl
      | some c =>
          dsimp only [Catalog.formOf]
          rw [← h.kind c]
          cases hkind : cat.kindOf c with
          | string => dsimp only; rw [h.withFallback]
          | enumeration => dsimp only; rw [h.withFallback, h.memberNames hkind]
          | _ => rfl

end Agree

namespace Compile

variable {cat cat' : Catalog} {root : TypeExpr} {L L' : Ledger TypeExpr} {room : Nat}

/-- Two tasks that come to the same, the first of which has to do with classes that the root
reaches. -/
inductive Corresponds (cat : Catalog) (root : TypeExpr) : Task → Task → Prop
  | type {t t' : TypeExpr} {given given' : Option Json} :
      cat.form t given = cat.form t' given' → (∀ c, Leads cat t c → Reaches cat root c) →
      Corresponds cat root (.type t given) (.type t' given')
  | object {c : ClassRef} (d : Option Json) : Reaches cat root c →
      Corresponds cat root (.object c d) (.object c d)
  | members {fields fields' : List SchemaField} :
      List.Forall₂ (SchemaField.Alike cat) fields fields' →
      (∀ f ∈ fields, ∀ c, Leads cat f.type c → Reaches cat root c) →
      Corresponds cat root (.members fields) (.members fields')

namespace Corresponds

variable {t t' : TypeExpr} {given given' d : Option Json}

/-- The items of two arrays of one form are the same. -/
theorem item {item : TypeExpr} (h : cat.form t given = .ok (.array item d))
    (hreach : ∀ c, Leads cat t c → Reaches cat root c) :
    Corresponds cat root (.type item none) (.type item none) :=
  .type rfl fun c hc => hreach c ((Leads.iff_of_array h).mpr hc)

/-- The data members of a class that is reached lead to classes that are reached. -/
theorem fields {c : ClassRef} {fields fields' : List SchemaField} (hreach : Reaches cat root c)
    (hfields : cat.fieldsOf c = .ok fields)
    (halike : List.Forall₂ (SchemaField.Alike cat) fields fields') :
    Corresponds cat root (.members fields) (.members fields') := by
  refine .members halike fun f hf c' hc' => ?_
  obtain ⟨r, hr, hpath⟩ := hreach
  exact ⟨r, hr, hpath.tail ⟨fields, hfields, f, hf, hc'⟩⟩

/-- What corresponds to data members that begin with one begins with one that is compiled to the
same. -/
theorem of_cons {f : SchemaField} {fields : List SchemaField} {task : Task}
    (h : Corresponds cat root (.members (f :: fields)) task) :
    ∃ f' fields', task = .members (f' :: fields') ∧ f.name = f'.name ∧
      Corresponds cat root (.type f.type f.description) (.type f'.type f'.description) ∧
      Corresponds cat root (.members fields) (.members fields') := by
  cases h with
  | members halike hreach =>
      cases halike with
      | cons hf hfields =>
          exact ⟨_, _, rfl, hf.name, .type hf.form (hreach f List.mem_cons_self),
            .members hfields fun g hg => hreach g (List.mem_cons_of_mem f hg)⟩

end Corresponds

section Transfer

variable (hagree : Agree cat cat')
  (hmembers : ∀ c, Reaches cat root c → SameMembers cat (cat.fieldsOf c) (cat'.fieldsOf c))

include hagree

theorem opened_of_agree (c : ClassRef) : opened cat c L = opened cat' c L := by
  rw [opened, opened, hagree.referenceId]

theorem newEntry_of_agree (c : ClassRef) : newEntry cat c L = newEntry cat' c L := by
  rw [newEntry, newEntry, hagree.referenceId]

theorem objectNode_of_agree (c : ClassRef) (d : Option Json) (built : List (String × Node)) :
    objectNode cat c d built = objectNode cat' c d built := by
  rw [objectNode, objectNode, hagree.withFallback]

include hmembers

/-- What is built in one catalog is built in the other, from any task that comes to the same. -/
theorem Builds.of_agree {task task' : Task} {result : Result}
    (h : Builds cat room L task result L') (htask : Corresponds cat root task task') :
    Builds cat' room L task' result L' := by
  -- Both derivations go through the same ledgers. Only the types of data members may differ.
  induction h generalizing task' with
  | scalar hform =>
      cases htask with
      | type heq _ => exact .scalar (by rw [← hagree.form, ← heq, hform])
  | array hform _ ih =>
      cases htask with
      | type heq hreach =>
          exact .array (by rw [← hagree.form, ← heq, hform]) (ih (.item hform hreach))
  | object hform _ ih =>
      cases htask with
      | type heq hreach =>
          exact .object (by rw [← hagree.form, ← heq, hform])
            (ih (.object _ (hreach _ ((Leads.iff_of_object hform).mpr rfl))))
  | placeholder hcustom he href =>
      cases htask with
      | object => exact .placeholder (by rw [← hagree.custom, hcustom]) he href
  | reuse hcustom he href =>
      cases htask with
      | object => exact .reuse (by rw [← hagree.custom, hcustom]) he href
  | @fresh _ L _ c d fields built hnew hfields _ ih =>
      cases htask with
      | object _ hreach =>
          obtain ⟨fields', hfields', halike⟩ := (hfields ▸ hmembers c hreach).exists_of_ok
          rw [objectNode_of_agree hagree, newEntry_of_agree hagree]
          have hbuilt := ih (.fields hreach hfields halike)
          rw [opened_of_agree hagree] at hbuilt
          exact .fresh (by rwa [← hagree.custom]) hfields' hbuilt
  | nil =>
      cases htask with
      | members halike _ =>
          cases halike
          exact .nil
  | cons _ _ ihn ihs =>
      obtain ⟨f', fields', rfl, hname, hhead, htail⟩ := htask.of_cons
      rw [hname]
      exact .cons (ihn hhead) (ihs htail)

/-- What fails in one catalog fails in the other with the same error. -/
theorem Fails.of_agree {limit : Int} {task task' : Task} {location : Location} {e : SchemaError}
    (h : Fails cat limit room L task location e) (htask : Corresponds cat root task task') :
    Fails cat' limit room L task' location e := by
  induction h generalizing task' with
  | tooDeep =>
      cases htask with
      | type => exact .tooDeep
  | form hform =>
      cases htask with
      | type heq _ => exact .form (by rw [← hagree.form, ← heq, hform])
  | array hform _ ih =>
      cases htask with
      | type heq hreach =>
          exact .array (by rw [← hagree.form, ← heq, hform]) (ih (.item hform hreach))
  | object hform _ ih =>
      cases htask with
      | type heq hreach =>
          exact .object (by rw [← hagree.form, ← heq, hform])
            (ih (.object _ (hreach _ ((Leads.iff_of_object hform).mpr rfl))))
  | @listing _ _ c _ _ cause hnew hfields =>
      cases htask with
      | object _ hreach =>
          exact .listing (by rwa [← hagree.custom]) (hfields ▸ hmembers c hreach).eq_error
  | @fresh _ _ c _ _ fields _ hnew hfields _ ih =>
      cases htask with
      | object _ hreach =>
          obtain ⟨fields', hfields', halike⟩ := (hfields ▸ hmembers c hreach).exists_of_ok
          have hfails := ih (.fields hreach hfields halike)
          rw [opened_of_agree hagree] at hfails
          exact .fresh (by rwa [← hagree.custom]) hfields' hfails
  | head _ ih =>
      obtain ⟨f', fields', rfl, hname, hhead, -⟩ := htask.of_cons
      have hfails := ih hhead
      rw [hname] at hfails
      exact .head hfails
  | tail hn _ ih =>
      obtain ⟨f', fields', rfl, -, hhead, htail⟩ := htask.of_cons
      exact .tail (hn.of_agree hagree hmembers hhead) (ih htail)

end Transfer

end Compile

namespace Catalog

open Compile

variable {cat cat' : Catalog} {t : TypeExpr}

/-- Catalogs that agree on classes, and on the data members of those that a type reaches, have the
same root for the type, or fail with the same error. -/
theorem build_eq_of_agree (hagree : Agree cat cat')
    (hmembers : ∀ c, Reaches cat t c → SameMembers cat (cat.fieldsOf c) (cat'.fieldsOf c))
    (limit : Int) : cat.build limit t = cat'.build limit t := by
  have hroot : Corresponds cat t (.type t none) (.type t none) :=
    .type rfl fun c hc => ⟨c, hc, .refl⟩
  cases h : cat.build limit t with
  | ok n =>
      obtain ⟨hlimit, m, hm, rfl⟩ := build_builds h
      have hm' := hm.of_agree hagree hmembers hroot
      cases h' : cat'.build limit t with
      | ok n' =>
          obtain ⟨-, m', hm'', rfl⟩ := build_builds h'
          obtain ⟨hnode, hledger⟩ := hm'.unique hm''
          obtain rfl := Result.node.inj hnode
          rw [hledger]
      | error e =>
          rcases build_fails h' with ⟨hlow, -⟩ | ⟨-, hfails⟩
          · omega
          · exact absurd hfails hm'.not_fails
  | error e =>
      rcases build_fails h with ⟨hlow, rfl⟩ | ⟨hlimit, hfails⟩
      · rw [build, if_pos hlow]
      have hfails' := hfails.of_agree hagree hmembers hroot
      cases h' : cat'.build limit t with
      | ok n =>
          obtain ⟨-, m, hm, -⟩ := build_builds h'
          exact absurd hfails' hm.not_fails
      | error e' =>
          rcases build_fails h' with ⟨hlow, -⟩ | ⟨-, hfails''⟩
          · omega
          · rw [hfails'.unique hfails'']

end Catalog

end TypeSchema
