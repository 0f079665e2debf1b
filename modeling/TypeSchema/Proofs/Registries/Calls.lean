import TypeSchema.Declaration
import TypeSchema.Proofs.Declaration.Steps
import TypeSchema.Proofs.Equality
import TypeSchema.Proofs.Registries.Evaluation
/-!
# Registering and describing classes

`RegistryCall.run` makes one of the calls that attach something to a class, and
`RegistryCall.runAll` makes several, going on after those that fail. A call that fails changes
nothing, and one that does not changes what is attached to its own class only
(`RegistryCall.run_cases`). So in the end the last call counts that gave a class something
(`RegistryCall.gives_runAll`), both for its data members (`Catalog.Gives.fieldsOf`) and for its
description (`Catalog.Gives.typeDescription?`). No other class sees a call, because nothing but
these lookups depends on the registries.

A statement that makes such a call evaluates its arguments first. That may fail too, and leaves the
registries alone as well (`Declaring.atomic_declareAt_register`).
-/

namespace TypeSchema

/-- The field that a row of the right length spells. -/
def FieldRow.asField? : FieldRow TypeExpr → Option SchemaField
  | .field name type description => some { name, type, description }
  | _ => none

/-- A call that attaches something to a class. A field list may come from either function that
registers one. -/
inductive RegistryCall where
  | register (c : ClassRef) (rows : List (FieldRow TypeExpr))
  | describe (c : ClassRef) (text : String)

namespace RegistryCall

/-- The class that something is attached to. -/
def target : RegistryCall → ClassRef
  | register c _ | describe c _ => c

/-- The call as it is written before a class statement. -/
def decorator : RegistryCall → Decorator
  | register _ rows => .register rows
  | describe _ text => .describe text

/-- Make a call. The catalog after it is returned even if it fails. -/
def run (call : RegistryCall) (cat : Catalog) : Except DeclareError TypeExpr × Catalog :=
  (Declaring.decorate call.target [] call.target.toExpr call.decorator).run.run cat

/-- Make some calls, and go on after those that fail. -/
def runAll (calls : List RegistryCall) (cat : Catalog) : Catalog :=
  calls.foldl (fun cat call => (call.run cat).2) cat

/-- Whether a call fails: some row of a field list has a wrong length. -/
def fails : RegistryCall → Bool
  | register _ rows => rows.any (·.asField?.isNone)
  | describe _ _ => false

/-- The field list that a call gives to a class. -/
def fields? : RegistryCall → ClassRef → Option (List SchemaField)
  | register d rows, c => if d = c then rows.mapM FieldRow.asField? else none
  | describe _ _, _ => none

/-- The description that a call gives to a class. -/
def text? : RegistryCall → ClassRef → Option String
  | register _ _, _ => none
  | describe d text, c => if d = c then some text else none

end RegistryCall

/-! ## Rows -/

namespace FieldRow

/-- All rows are made into fields before anything is stored. -/
theorem toOption_mapM_toField (rows : List (FieldRow TypeExpr)) :
    (rows.mapM toField).toOption = rows.mapM asField? := by
  induction rows with
  | nil => rfl
  | cons row rows ih =>
      rw [List.mapM_cons, List.mapM_cons, ← ih]
      cases row with
      | field name type description => cases rows.mapM toField <;> rfl
      | malformed entries type => rfl
      | single kind => rfl

theorem isNone_mapM_asField? (rows : List (FieldRow TypeExpr)) :
    (rows.mapM asField?).isNone = rows.any (·.asField?.isNone) := by
  induction rows with
  | nil => rfl
  | cons row rows ih =>
      rw [List.mapM_cons, List.any_cons, ← ih]
      cases row.asField? with
      | none => rfl
      | some f => cases rows.mapM asField? <;> rfl

end FieldRow

namespace Catalog

variable (cat : Catalog)

theorem register_toExpr (c : ClassRef) (rows : List (FieldRow TypeExpr)) :
    cat.register c.toExpr rows =
      (rows.mapM FieldRow.toField).map fun fields =>
        cat.relist cat.descriptions (OrderedMap.put c fields cat.registered) := by
  rw [register]
  cases rows.mapM FieldRow.toField <;> rfl

theorem same_toExpr_iff {key : TypeExpr} {c : ClassRef} :
    key.same c.toExpr = true ↔ key = c.toExpr := by
  refine ⟨fun h => TypeExpr.same_cls_iff.mp (TypeExpr.same_symm h), fun h => ?_⟩
  rw [h]
  exact TypeExpr.same_cls_iff.mpr rfl

/-- What a registry of descriptions holds for a class. -/
def described? (c : ClassRef) (known : List (TypeExpr × String)) : Option String :=
  known.findSome? fun (key, text) => if key.same c.toExpr then some text else none

theorem described?_cons (c : ClassRef) (key : TypeExpr) (text : String)
    (known : List (TypeExpr × String)) :
    described? c ((key, text) :: known) =
      if key = c.toExpr then some text else described? c known := by
  rw [described?, List.findSome?_cons]
  by_cases hkey : key = c.toExpr <;> simp [same_toExpr_iff, hkey, described?]

/-- A description is found for its own class and for no other. -/
theorem described?_putSame (c e : ClassRef) (text : String) (known : List (TypeExpr × String)) :
    described? e (putSame c.toExpr text known) =
      if c = e then some text else described? e known := by
  have hkeys : c.toExpr = e.toExpr ↔ c = e := ⟨ClassRef.toExpr_inj, congrArg ClassRef.toExpr⟩
  induction known with
  | nil => simp only [putSame, described?_cons, hkeys]
  | cons entry rest ih =>
      obtain ⟨key, old⟩ := entry
      by_cases hkey : key = c.toExpr
      · rw [putSame, if_pos (same_toExpr_iff.mpr hkey), described?_cons, described?_cons, hkey]
        simp only [hkeys]
        split <;> rfl
      · rw [putSame, if_neg (mt same_toExpr_iff.mp hkey), described?_cons, described?_cons, ih]
        by_cases hc : c = e
        · rw [if_pos hc, if_pos hc, if_neg (hc ▸ hkey)]
        · rw [if_neg hc, if_neg hc]

theorem typeDescription?_of_ne {c : ClassRef} (h : c ≠ .builtin .uuid) :
    cat.typeDescription? c.toExpr = described? c cat.descriptions :=
  if_neg fun huuid => h (ClassRef.toExpr_inj huuid)

/-! ## What a catalog is given -/

/-- One catalog comes from another in that some classes are given field lists and descriptions. -/
structure Gives (fields : ClassRef → Option (List SchemaField))
    (texts : ClassRef → Option String) (cat' : Catalog) : Prop where
  relisted : cat' = cat.relist cat'.descriptions cat'.registered
  registered (c : ClassRef) : cat'.registered? c = (fields c).or (cat.registered? c)
  described (c : ClassRef) : described? c cat'.descriptions =
    (texts c).or (described? c cat.descriptions)

namespace Gives

variable {cat cat' cat'' : Catalog} {fields fields' : ClassRef → Option (List SchemaField)}
  {texts texts' : ClassRef → Option String}

theorem nothing (cat : Catalog) : cat.Gives (fun _ => none) (fun _ => none) cat where
  relisted := rfl
  registered _ := rfl
  described _ := rfl

/-- What is given later counts. -/
theorem trans (h : cat.Gives fields texts cat') (h' : cat'.Gives fields' texts' cat'') :
    cat.Gives (fun c => (fields' c).or (fields c)) (fun c => (texts' c).or (texts c)) cat'' where
  relisted := by rw [h'.relisted, h.relisted]; rfl
  registered c := by rw [h'.registered, h.registered, Option.or_assoc]
  described c := by rw [h'.described, h.described, Option.or_assoc]

theorem fieldsOf (h : cat.Gives fields texts cat') (c : ClassRef) :
    cat'.fieldsOf c =
      match fields c with
      | some given => .ok given
      | none => cat.fieldsOf c := by
  have hfound := h.registered c
  cases hc : fields c with
  | some given =>
      rw [hc] at hfound
      exact cat'.fieldsOf_of_registered hfound
  | none =>
      rw [hc, h.relisted] at hfound
      rw [h.relisted]
      exact cat.relist_fieldsOf _ _ hfound

theorem typeDescription? (h : cat.Gives fields texts cat') (c : ClassRef) :
    cat'.typeDescription? c.toExpr =
      if c = .builtin .uuid then some uuidDescription
      else (texts c).or (cat.typeDescription? c.toExpr) := by
  split
  · next huuid => rw [huuid]; rfl
  · next huuid =>
      rw [cat'.typeDescription?_of_ne huuid, cat.typeDescription?_of_ne huuid]
      exact h.described c

/-- A class that is given nothing stays as it was. -/
theorem unchanged (h : cat.Gives fields texts cat') {c : ClassRef} (hfields : fields c = none)
    (htexts : texts c = none) :
    cat'.fieldsOf c = cat.fieldsOf c ∧
      cat'.typeDescription? c.toExpr = cat.typeDescription? c.toExpr := by
  constructor
  · rw [h.fieldsOf, hfields]
  · rw [h.typeDescription?, htexts]
    split
    · next huuid => rw [huuid]; rfl
    · rfl

end Gives

end Catalog

namespace RegistryCall

open Catalog

variable (cat : Catalog)

/-! ## One call -/

theorem run_register (c : ClassRef) (rows : List (FieldRow TypeExpr)) :
    (register c rows).run cat =
      match rows.mapM FieldRow.toField with
      | .ok fields =>
        (.ok c.toExpr, cat.relist cat.descriptions (OrderedMap.put c fields cat.registered))
      | .error fault => (.error (.registry fault), cat) := by
  change ((do
    set (← Declaring.check .registry (cat.register c.toExpr rows))
    return c.toExpr : Declaring TypeExpr).run.run cat) = _
  rw [register_toExpr]
  cases rows.mapM FieldRow.toField <;> rfl

/-- A call fails and changes nothing, or it does not fail and gives something to its class. -/
theorem run_cases (call : RegistryCall) :
    (call.fails = true ∧ (∃ fault, call.run cat = (.error fault, cat)) ∧
      ∀ c, call.fields? c = none ∧ call.text? c = none) ∨
    (call.fails = false ∧ ∃ cat', call.run cat = (.ok call.target.toExpr, cat') ∧
      cat.Gives call.fields? call.text? cat') := by
  cases call with
  | describe c text =>
      refine .inr ⟨rfl, _, rfl, rfl, fun _ => rfl, fun e => ?_⟩
      change described? e (putSame c.toExpr text cat.descriptions) = _
      rw [described?_putSame, text?]
      split <;> rfl
  | register c rows =>
      have hrun := run_register cat c rows
      have hrows := FieldRow.toOption_mapM_toField rows
      have hfails : (register c rows).fails = (rows.mapM FieldRow.asField?).isNone :=
        (FieldRow.isNone_mapM_asField? rows).symm
      cases hm : rows.mapM FieldRow.toField with
      | error fault =>
          rw [hm] at hrun hrows
          refine .inl ⟨hfails.trans (by rw [← hrows]; rfl), ⟨_, hrun⟩, fun e => ⟨?_, rfl⟩⟩
          rw [fields?, ← hrows]
          split <;> rfl
      | ok fields =>
          rw [hm] at hrun hrows
          refine .inr ⟨hfails.trans (by rw [← hrows]; rfl), _, hrun, rfl, fun e => ?_, fun _ => rfl⟩
          change OrderedMap.find? e (OrderedMap.put c fields cat.registered) = _
          rw [fields?, ← hrows]
          by_cases hc : c = e
          · rw [if_pos hc, hc, OrderedMap.find?_put_self]
            rfl
          · rw [if_neg hc, OrderedMap.find?_put_of_ne (Ne.symm hc)]
            rfl

/-- What a call leaves, whether it fails or not. -/
theorem gives_run (call : RegistryCall) :
    cat.Gives call.fields? call.text? (call.run cat).2 := by
  obtain ⟨-, ⟨fault, hrun⟩, hnone⟩ | ⟨-, cat', hrun, hgives⟩ := run_cases cat call <;> rw [hrun]
  · have hfields : call.fields? = fun _ => none := funext fun c => (hnone c).1
    have htexts : call.text? = fun _ => none := funext fun c => (hnone c).2
    rw [hfields, htexts]
    exact .nothing cat
  · exact hgives

/-- A call gives nothing to other classes. -/
theorem nothing_of_target_ne {call : RegistryCall} {c : ClassRef} (h : call.target ≠ c) :
    call.fields? c = none ∧ call.text? c = none := by
  cases call with
  | register e rows => exact ⟨if_neg h, rfl⟩
  | describe e text => exact ⟨rfl, if_neg h⟩

/-! ## Several calls -/

theorem getLast?_filterMap_cons {α β : Type} (f : α → Option β) (a : α) (l : List α) :
    ((a :: l).filterMap f).getLast? = ((l.filterMap f).getLast?).or (f a) := by
  rw [List.filterMap_cons]
  cases f a with
  | none => simp
  | some b => cases h : (l.filterMap f).getLast? <;> simp [List.getLast?_cons, h]

/-- After some calls, the last of those that gave something to a class counts. -/
theorem gives_runAll (calls : List RegistryCall) :
    cat.Gives (fun c => (calls.filterMap (·.fields? c)).getLast?)
      (fun c => (calls.filterMap (·.text? c)).getLast?) (runAll calls cat) := by
  induction calls generalizing cat with
  | nil => exact .nothing cat
  | cons call calls ih =>
      simp only [getLast?_filterMap_cons]
      exact (gives_run cat call).trans (ih (call.run cat).2)

/-- Registering and describing is atomic and local. A call fails exactly if a row has a wrong
length, and then it leaves the catalog as it was. After any calls the fields of a class are the list
of the last call that registered one for it, and those that it had before if there was none; its
description is the text of the last call that described it. No call is seen by another class. -/
theorem run_atomic_local :
    (∀ call : RegistryCall, match call.run cat with
      | (.error _, after) => call.fails = true ∧ after = cat
      | (.ok _, _) => call.fails = false) ∧
    (∀ (calls : List RegistryCall) (c : ClassRef), (runAll calls cat).fieldsOf c =
      match (calls.filterMap (·.fields? c)).getLast? with
      | some fields => .ok fields
      | none => cat.fieldsOf c) ∧
    (∀ (calls : List RegistryCall) (c : ClassRef), (runAll calls cat).typeDescription? c.toExpr =
      if c = .builtin .uuid then some uuidDescription
      else ((calls.filterMap (·.text? c)).getLast?).or (cat.typeDescription? c.toExpr)) ∧
    ∀ (call : RegistryCall) (c : ClassRef), call.target = c ∨
      ((call.run cat).2.fieldsOf c = cat.fieldsOf c ∧
        (call.run cat).2.typeDescription? c.toExpr = cat.typeDescription? c.toExpr) := by
  refine ⟨fun call => ?_, fun calls => (gives_runAll cat calls).fieldsOf,
    fun calls => (gives_runAll cat calls).typeDescription?, fun call c => ?_⟩
  · obtain ⟨hfails, ⟨fault, hrun⟩, -⟩ | ⟨hfails, cat', hrun, -⟩ := run_cases cat call <;> rw [hrun]
    · exact ⟨hfails, rfl⟩
    · exact hfails
  · by_cases hc : call.target = c
    · exact .inl hc
    · have hnone := nothing_of_target_ne hc
      exact .inr ((gives_run cat call).unchanged hnone.1 hnone.2)

/-- A class that derives from another does not see its fields, and nobody sees a call that fails. -/
example :
    let calls : List RegistryCall :=
      [.register (.builtin .int) [.field "digits" (.builtin .str) none],
        .register (.builtin .int) [.malformed 1 none], .register (.builtin .bool) []]
    (runAll calls .empty).fieldsOf (.builtin .int) =
        .ok [⟨"digits", .builtin .str, none⟩] ∧
      (runAll calls .empty).fieldsOf (.builtin .bool) = .ok [] :=
  ⟨rfl, rfl⟩

end RegistryCall

/-! ## Statements -/

namespace Declaring

open Catalog (lasting)

variable {α β : Type}

/-- A step that leaves what lasts as it was if it fails, the registries included. -/
def Atomic (a : Declaring α) : Prop :=
  ∀ ⦃cat e cat'⦄, a.run.run cat = (.error e, cat') → cat'.lasting = cat.lasting

theorem Atomic.of_keeps {a : Declaring α} (h : ∀ l, Keeps (·.lasting = l) a) : Atomic a :=
  fun cat _ _ hrun => by simpa [hrun] using (h cat.lasting cat rfl).1

/-- Where the first part keeps what lasts in any case, all depends on the second. -/
theorem Atomic.bind {a : Declaring α} {f : α → Declaring β} {P : α → Prop}
    (ha : ∀ l, Ensures (·.lasting = l) a P) (hf : ∀ x, P x → Atomic (f x)) :
    Atomic (a >>= f) := by
  intro cat e cat' h
  obtain ⟨hkept, hfirst⟩ := ha cat.lasting cat rfl
  rw [run_bind] at h
  rcases hrun : a.run.run cat with ⟨_ | x, between⟩ <;> rw [hrun] at h hkept hfirst
  · exact (Prod.mk.inj h).2 ▸ hkept
  · exact (hf x (hfirst x rfl) h).trans hkept

theorem Atomic.return {a : Declaring α} (ha : Atomic a) (y : β) :
    Atomic (a >>= fun _ => pure y) := by
  intro cat e cat' h
  rw [run_bind] at h
  rcases hrun : a.run.run cat with ⟨e' | x, between⟩ <;> rw [hrun] at h
  · exact (Prod.mk.inj h).2 ▸ ha hrun
  · exact absurd (Prod.mk.inj h).1 nofun

/-- What is checked first is stored as a whole. -/
theorem atomic_store (wrap : RegistryFault → DeclareError)
    (store : Catalog → Except RegistryFault Catalog) (x : α) :
    Atomic (do set (← check wrap (store (← get))); return x : Declaring α) :=
  .bind (fun _ => ensures_get.keeps) fun _ _ => .bind (fun _ => keeps_check _ _) fun _ _ => nofun

theorem atomic_decorate {c : ClassRef} {options : List (String × FieldOptions)} {t : TypeExpr}
    {decorator : Decorator} (h : decorator ≠ .dataclass) :
    Atomic (decorate c options t decorator) := by
  cases decorator with
  | describe text => exact atomic_store _ (·.describe t text) t
  | register rows => exact atomic_store _ (·.register t rows) t
  | dataclass => exact absurd rfl h
  | other function => exact .of_keeps fun _ => keeps_evaluate _ _

/-- A statement that registers a field list leaves the registries as they were if it fails, be it in
its arguments or in the call. -/
theorem atomic_declareAt_register (site : Site) (target : Expression)
    (rows : List (FieldRow Expression)) (eachMade : Bool) :
    Atomic (declareAt site (.register target rows eachMade)) := by
  rw [declareAt]
  refine .bind (fun _ => keeps_valueAt _ _) fun function _ => ?_
  refine .bind (fun _ => keeps_valueAt _ _) fun t _ => ?_
  refine .bind (fun _ => keeps_evaluateRows _ _ _) fun rows _ => ?_
  split
  · exact atomic_store _ (·.register t rows) []
  · exact .of_keeps fun _ => (keeps_evaluate _ _).then fun _ => keeps_pure _

/-- So does one that describes a class. -/
theorem atomic_declareAt_describe (site : Site) (target : Expression) (text : String) :
    Atomic (declareAt site (.describe target text)) := by
  have hown : Decorator.describe text ≠ .dataclass := by simp
  rw [declareAt]
  refine .bind (fun _ => ensures_calling hown) fun decorator hdecorator => ?_
  refine .bind (fun _ => keeps_valueAt _ _) fun t _ => ?_
  exact (atomic_decorate hdecorator).return []

end Declaring

end TypeSchema
