import TypeSchema.Catalog.Fields
import TypeSchema.Proofs.Registries.Values
/-!
# Evaluation does not depend on the registries

An expression means the same whatever is described or registered, so the annotations of a class do
too (`Catalog.relist_hints`), and the fields of a model (`Catalog.relist_modelFields`). Rebuilding a
model changes the catalog, but not its registries: there `relist` moves outwards.

So the data members of a class depend on the registries no further than in whether a field list is
registered for that very class (`Catalog.relist_fieldsOf`).
-/

namespace TypeSchema.Catalog

variable (cat : Catalog) (d : List (TypeExpr × String)) (r : List (ClassRef × List SchemaField))

/-! ## References -/

/-- References are replaced alike, in one expression and in several. -/
theorem relist_mapReferences_and_all (f : TypeExpr.Resolver) :
    (∀ t, (cat.relist d r).mapReferences f t = cat.mapReferences f t) ∧
      (∀ ts, (cat.relist d r).mapAll f ts = cat.mapAll f ts) ∧
      ∀ ts, (cat.relist d r).mapWritten f ts = cat.mapWritten f ts := by
  have hannotated : (cat.relist d r).annotated = cat.annotated := rfl
  have hrejoin : (cat.relist d r).rejoin = cat.rejoin := by
    funext members
    unfold rejoin
    rw [relist_combine]
  apply mapReferences.mutual_induct
  all_goals intros
  all_goals simp only [mapReferences, mapAll, mapWritten, relist_unionOfValues, *]

@[simp] theorem relist_mapReferences :
    (cat.relist d r).mapReferences = cat.mapReferences :=
  funext fun f => funext (cat.relist_mapReferences_and_all d r f).1

@[simp] theorem relist_evalText : (cat.relist d r).evalText = cat.evalText := by
  funext ev scope mention
  unfold evalText
  rw [relist_demanded]
  rfl

@[simp] theorem relist_resolveIn : (cat.relist d r).resolveIn = cat.resolveIn := by
  funext ev depth
  induction depth with
  | zero => rfl
  | succ depth ih =>
      funext scope open' t
      rw [resolveIn, resolveIn, relist_mapReferences, relist_evalText, ih]
      rfl

@[simp] theorem relist_meaningBy : (cat.relist d r).meaningBy = cat.meaningBy := by
  funext ev scope written
  unfold meaningBy resolve
  rw [relist_resolveIn]
  rfl

@[simp] theorem relist_hintsBy : (cat.relist d r).hintsBy = cat.hintsBy := by
  funext ev c
  unfold hintsBy ownHintsBy checkTable
  rw [relist_attributeOf, relist_meaningBy]
  rfl

/-! ## Expressions -/

theorem relist_assign_and_all (number : Nat) :
    (∀ e t, (cat.relist d r).assign number e t = cat.assign number e t) ∧
      ∀ es ts, (cat.relist d r).assignAll number es ts = cat.assignAll number es ts := by
  have hshared : (cat.relist d r).shared = cat.shared := rfl
  apply assign.mutual_induct
  all_goals intros
  all_goals simp only [assign, assignAll, *]

@[simp] theorem relist_assign : (cat.relist d r).assign = cat.assign := by
  funext number e t
  exact (cat.relist_assign_and_all d r number).1 e t

@[simp] theorem relist_functionText : (cat.relist d r).functionText = cat.functionText := by
  funext function
  unfold functionText
  rw [relist_display, relist_qualnameOf]
  rfl

/-- The parts of an expression are evaluated alike, whatever they are parts of. -/
theorem relist_evalWith_and_all (invoke : Caller) :
    (∀ scope e, (cat.relist d r).evalWith invoke scope e = cat.evalWith invoke scope e) ∧
    (∀ scope number produce es, (cat.relist d r).evalClauses invoke scope number produce es =
      cat.evalClauses invoke scope number produce es) ∧
    (∀ scope es, (cat.relist d r).evalConditions invoke scope es =
      cat.evalConditions invoke scope es) ∧
    (∀ scope es, (cat.relist d r).evalParameters invoke scope es =
      cat.evalParameters invoke scope es) ∧
    (∀ scope left es, (cat.relist d r).evalComparisons invoke scope left es =
      cat.evalComparisons invoke scope left es) ∧
    (∀ scope decisive es, (cat.relist d r).evalOperands invoke scope decisive es =
      cat.evalOperands invoke scope decisive es) ∧
    (∀ scope es, (cat.relist d r).evalEntries invoke scope es =
      cat.evalEntries invoke scope es) ∧
    (∀ scope ofSet es, (cat.relist d r).evalItems invoke scope ofSet es =
      cat.evalItems invoke scope ofSet es) ∧
    ∀ scope function es, (cat.relist d r).evalArguments invoke scope function es =
      cat.evalArguments invoke scope function es := by
  -- What only follows the fields of the catalog is rewritten as it is met.
  have hlookup : (cat.relist d r).lookup = cat.lookup := rfl
  have hbound : (cat.relist d r).boundSubscription? = cat.boundSubscription? := rfl
  have hcall : (cat.relist d r).callInScope? = cat.callInScope? := rfl
  have htrue : (cat.relist d r).isTrue = cat.isTrue := rfl
  have hunary : (cat.relist d r).applyUnary = cat.applyUnary := rfl
  have hset : (cat.relist d r).setOf = cat.setOf := rfl
  have hitems : (cat.relist d r).itemsOf = cat.itemsOf := rfl
  have htaken : (cat.relist d r).takeItems? = cat.takeItems? := rfl
  have hunpack : (cat.relist d r).unpack = cat.unpack := rfl
  have hentries : (cat.relist d r).unpackEntries = cat.unpackEntries := rfl
  have hgathered : (cat.relist d r).gathered = cat.gathered := rfl
  apply evalWith.mutual_induct cat invoke
  case case20 =>
    -- A comprehension, whose item is evaluated in the rounds of its clauses.
    intro scope grouping item target source conditions clauses hsource hitem hconditions hclauses
    simp only [evalWith, relist_assign, hitems, hgathered, hsource, hitem, hconditions, hclauses]
  all_goals intros
  all_goals
    simp only [evalWith, evalItems, evalEntries, evalParameters, evalConditions, evalClauses,
      evalOperands, evalComparisons, evalArguments, relist_kindName, relist_attributeOf,
      relist_subscript, relist_combine, relist_functionText, relist_converted, relist_formatted,
      relist_compare, relist_assign, *]

@[simp] theorem relist_evalWith : (cat.relist d r).evalWith = cat.evalWith := by
  funext invoke scope e
  exact (cat.relist_evalWith_and_all d r invoke).1 scope e

@[simp] theorem relist_hintsOf : (cat.relist d r).hintsOf = cat.hintsOf := by
  funext ev t args
  unfold hintsOf
  rw [relist_hintsBy, relist_display]
  rfl

@[simp] theorem relist_callAt (depth : Nat) : (cat.relist d r).callAt depth = cat.callAt depth := by
  induction depth with
  | zero => funext function args; rw [callAt, callAt]
  | succ depth ih =>
      funext function args
      rw [callAt.eq_def, callAt.eq_def cat, relist_evalWith]
      split <;> simp_all only [Nat.succ.injEq, reduceCtorEq, relist_hintsOf, relist_callWith]

@[simp] theorem relist_eval : (cat.relist d r).eval = cat.eval := by
  funext scope e
  unfold eval call
  rw [relist_evalWith, relist_callAt]

@[simp] theorem relist_meaning : (cat.relist d r).meaning = cat.meaning := by
  funext scope written
  unfold meaning
  rw [relist_meaningBy, relist_eval]

@[simp] theorem relist_hints : (cat.relist d r).hints = cat.hints := by
  funext c
  unfold hints
  rw [relist_hintsBy, relist_eval]
  rfl

/-! ## Models -/

@[simp] theorem relist_admitClass (depth : Nat) :
    (cat.relist d r).admitClass depth = cat.admitClass depth := by
  have hrecord : (cat.relist d r).recordTypes? = cat.recordTypes? := by
    funext c
    unfold recordTypes?
    rw [relist_hints]
    rfl
  induction depth with
  | zero => funext t; rw [admitClass, admitClass]
  | succ depth ih =>
      funext t
      rw [admitClass.eq_def, admitClass.eq_def cat]
      split <;> simp_all only [Nat.succ.injEq, reduceCtorEq]
      all_goals rfl

@[simp] theorem relist_checkFields : (cat.relist d r).checkFields = cat.checkFields := by
  funext c fields
  unfold checkFields
  rw [relist_admitClass]
  rfl

@[simp] theorem relist_modelMeaning : (cat.relist d r).modelMeaning = cat.modelMeaning := by
  funext scope written
  unfold modelMeaning
  rw [relist_meaning]

@[simp] theorem relist_replacedField : (cat.relist d r).replacedField = cat.replacedField := by
  funext vars f
  unfold replacedField attempt
  rw [relist_replace, relist_modelMeaning]

@[simp] theorem relist_rebuiltFields : (cat.relist d r).rebuiltFields = cat.rebuiltFields := by
  funext c fields
  unfold rebuiltFields modelScope
  rw [relist_modelMeaning, relist_replace, relist_nameOf]
  rfl

@[simp] theorem relist_assignmentOf : (cat.relist d r).assignmentOf = cat.assignmentOf := rfl
@[simp] theorem relist_newTrace : (cat.relist d r).newTrace = cat.newTrace := rfl
@[simp] theorem relist_recordedFields? :
    (cat.relist d r).recordedFields? = cat.recordedFields? := rfl

/-! What changes the catalog keeps its registries. -/

theorem relist_setFields (c : ClassRef) (fields : List ModelField) :
    (cat.relist d r).setFields c fields = (cat.setFields c fields).relist d r := by
  rcases c with ⟨id | i, args⟩ <;> rw [setFields, setFields] <;> split <;> rfl

theorem relist_place (c : ClassRef) (module : String) (tries : Nat) (name : String) :
    (cat.relist d r).place c module tries name = (cat.place c module tries name).relist d r := by
  induction tries generalizing name with
  | zero => rfl
  | succ tries ih =>
      rw [place, place, relist_ownNames]
      split
      · exact ih (name ++ "_")
      · rfl

theorem relist_absorb (trace : Trace) :
    (cat.relist d r).absorb trace = (cat.absorb trace).relist d r := rfl

theorem relist_addInstance (c : ClassRef) (fields : List ModelField) (topLevel : Option String) :
    (cat.relist d r).addInstance c fields topLevel =
      (cat.addInstance c fields topLevel).relist d r := by
  cases topLevel with
  | none => rfl
  | some m =>
      let known : Catalog :=
        { cat with instances := OrderedMap.put c { fields, module := some m } cat.instances }
      change (known.relist d r).place c m _ ((known.relist d r).qualnameOf c) = _
      rw [relist_place, relist_qualnameOf]
      rfl

/-- Rebuilding a model keeps the registries, and does not look at them. -/
theorem relist_rebuildNoting (c : ClassRef) :
    (cat.relist d r).rebuildNoting c =
      (fun (cat, met) => (cat.relist d r, met)) <$> cat.rebuildNoting c := by
  unfold rebuildNoting
  rw [relist_rebuiltFields, relist_recordedFields?, relist_newTrace]
  rcases cat.recordedFields? c with _ | fields
  · rfl
  · dsimp only
    rcases (cat.rebuiltFields c fields).run (cat.newTrace none) with e | ⟨rebuilt, trace⟩
    · cases e <;> rfl
    · dsimp only
      rw [relist_setFields, relist_absorb, relist_checkFields, map_bind]
      rfl

/-- A fold whose steps commute with a change of the state commutes with it. -/
theorem foldlM_map_comm {m : Type → Type} [Monad m] [LawfulMonad m] {σ β : Type} (f : σ → σ)
    {step : σ → β → m σ} (hstep : ∀ s b, step (f s) b = f <$> step s b) (s : σ) (bs : List β) :
    bs.foldlM step (f s) = f <$> bs.foldlM step s := by
  induction bs generalizing s with
  | nil => rw [List.foldlM_nil, List.foldlM_nil, map_pure]
  | cons b bs ih =>
      rw [List.foldlM_cons, List.foldlM_cons, hstep, bind_map_left, map_bind]
      exact bind_congr ih

/-- Recording generic models keeps the registries, and does not look at them. -/
theorem relist_recordInstances (depth : Nat) (instances : List (ClassRef × Option String)) :
    recordInstances depth (cat.relist d r) instances =
      (relist · d r) <$> recordInstances depth cat instances := by
  induction depth generalizing cat instances with
  | zero => rfl
  | succ depth ih =>
      rw [recordInstances, recordInstances]
      refine foldlM_map_comm (relist · d r) (fun cat (c, topLevel) => ?_) cat instances
      dsimp only
      rw [relist_recordedFields?, relist_rebuildNoting]
      split
      · rfl
      · rw [bind_map_left, map_bind]
        refine bind_congr fun (cat, met) => ?_
        dsimp only
        rw [relist_recordedFields?, relist_replacedField, relist_newTrace, relist_assignmentOf,
          map_bind]
        refine bind_congr fun (fields, trace) => ?_
        dsimp only
        rw [relist_addInstance, relist_absorb, ih]

theorem relist_commit (trace : Trace) :
    (cat.relist d r).commit trace = (relist · d r) <$> cat.commit trace := by
  unfold commit
  rw [relist_absorb, relist_recordInstances]

@[simp] theorem relist_modelFields : (cat.relist d r).modelFields = cat.modelFields := by
  funext c
  unfold modelFields
  rw [relist_recordedFields?, relist_newTrace, relist_commit, bind_map_left]
  rfl

/-! ## Data members -/

theorem fieldsOf_of_registered {c : ClassRef} {fields : List SchemaField}
    (h : cat.registered? c = some fields) : cat.fieldsOf c = .ok fields := by
  rw [fieldsOf, h]

/-- The data members of a class depend on no description, and on no field list of another class. -/
theorem relist_fieldsOf {c : ClassRef}
    (h : (cat.relist d r).registered? c = cat.registered? c) :
    (cat.relist d r).fieldsOf c = cat.fieldsOf c := by
  unfold fieldsOf
  rw [h, relist_isModel, relist_modelFields, relist_hints, relist_dataclassFields?]

end TypeSchema.Catalog
