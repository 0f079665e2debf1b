import Mathlib.Data.List.GetD
import TypeSchema.Proofs.Declaration.Run
/-!
# What evaluations leave alone

An evaluation may resolve the fields of models, and it records the generic models at arguments that
it meets. Whatever else is known of classes lasts, and so do the two registries
(`Catalog.lasting_commit`).
-/

namespace TypeSchema

/-- What is known of a class, its fields as a model apart: these may be resolved at any time. -/
def ClassInfo.outline (info : ClassInfo) : ClassInfo := { info with model := none }

namespace Catalog

/-- What no evaluation changes. -/
structure Lasting where
  outlines : List ClassInfo
  descriptions : List (TypeExpr × String)
  registered : List (ClassRef × List SchemaField)

/-- What no evaluation changes of a catalog. -/
def lasting (cat : Catalog) : Lasting :=
  ⟨cat.classes.map ClassInfo.outline, cat.descriptions, cat.registered⟩

variable {cat cat' : Catalog}

theorem outline_info_declared (cat : Catalog) (n : Nat) :
    (cat.info (.declared n)).outline = cat.lasting.outlines.getD n (builtinInfo .object).outline :=
  (List.getD_map ..).symm

theorem length_outlines (cat : Catalog) : cat.lasting.outlines.length = cat.classes.length :=
  List.length_map _

/-- A change of one class changes what is looked at in it. -/
theorem map_modify {look f g : ClassInfo → ClassInfo} (hfg : ∀ i, look (f i) = g (look i))
    (classes : List ClassInfo) (n : Nat) :
    (classes.modify n f).map look = (classes.map look).modify n g := by
  refine List.ext_getElem (by simp) fun j hj _ => ?_
  simp only [List.getElem_map, List.getElem_modify]
  split
  · exact hfg _
  · rfl

theorem lasting_updateInfo {f : ClassInfo → ClassInfo} (hf : ∀ i, (f i).outline = i.outline)
    (id : ClassId) : (cat.updateInfo id f).lasting = cat.lasting := by
  cases id with
  | builtin b => rfl
  | declared n =>
      have hclasses := map_modify (g := id) hf cat.classes n
      rw [List.modify_id] at hclasses
      exact congrArg (Lasting.mk · cat.descriptions cat.registered) hclasses

theorem lasting_setFields (c : ClassRef) (fields : List ModelField) :
    (cat.setFields c fields).lasting = cat.lasting := by
  unfold setFields
  split
  · refine lasting_updateInfo (fun i => ?_) c.id
    rfl
  · rfl

theorem lasting_place (c : ClassRef) (module : String) (tries : Nat) (name : String) :
    (cat.place c module tries name).lasting = cat.lasting := by
  induction tries generalizing name with
  | zero => rfl
  | succ tries ih =>
      rw [place]
      split
      · exact ih _
      · rfl

theorem lasting_addInstance (c : ClassRef) (fields : List ModelField) (topLevel : Option String) :
    (cat.addInstance c fields topLevel).lasting = cat.lasting := by
  unfold addInstance
  split
  · exact lasting_place _ _ _ _
  · rfl

theorem lasting_rebuildNoting {c : ClassRef} {met : List (ClassRef × Option String)}
    (h : cat.rebuildNoting c = .ok (cat', met)) : cat'.lasting = cat.lasting := by
  unfold rebuildNoting at h
  split at h
  · obtain ⟨rfl, -⟩ := Prod.mk.inj (Except.ok.inj h)
    rfl
  · split at h
    · next rebuilt trace _ =>
      obtain ⟨-, -, hdone⟩ := bind_eq_ok_iff.mp h
      obtain ⟨rfl, -⟩ := Prod.mk.inj (Except.ok.inj hdone)
      exact lasting_setFields c rebuilt
    · obtain ⟨rfl, -⟩ := Prod.mk.inj (Except.ok.inj h)
      rfl
    · exact absurd h nofun

theorem lasting_recordInstances {depth : Nat} {instances : List (ClassRef × Option String)}
    (h : recordInstances depth cat instances = .ok cat') : cat'.lasting = cat.lasting := by
  induction depth generalizing cat cat' instances with
  | zero => rw [← Except.ok.inj h]
  | succ depth ih =>
      rw [recordInstances] at h
      refine foldlM_ok_induction (P := fun c => c.lasting = cat.lasting) ?_ rfl h
      rintro before ⟨c, topLevel⟩ after hbefore hstep
      dsimp only at hstep
      split at hstep
      · exact Except.ok.inj hstep ▸ hbefore
      · obtain ⟨⟨rebuilt, met⟩, hrebuilt, hstep⟩ := bind_eq_ok_iff.mp hstep
        obtain ⟨⟨fields, trace⟩, -, hstep⟩ := bind_eq_ok_iff.mp hstep
        calc after.lasting
            = ((rebuilt.addInstance c fields topLevel).absorb trace).lasting := ih hstep
          _ = rebuilt.lasting := lasting_addInstance c fields topLevel
          _ = before.lasting := lasting_rebuildNoting hrebuilt
          _ = cat.lasting := hbefore

theorem lasting_commit {trace : Trace} (h : cat.commit trace = .ok cat') :
    cat'.lasting = cat.lasting := by
  rw [lasting_recordInstances h]
  rfl

theorem lasting_rebuild {c : ClassRef} (h : cat.rebuild c = .ok cat') :
    cat'.lasting = cat.lasting := by
  obtain ⟨⟨rebuilt, met⟩, hrebuilt, hdone⟩ := bind_eq_ok_iff.mp h
  rw [lasting_recordInstances hdone, lasting_rebuildNoting hrebuilt]

/-! ## Another class -/

/-- What lasts, with another class. -/
def Lasting.add (l : Lasting) (info : ClassInfo) : Lasting :=
  { l with outlines := l.outlines ++ [info.outline] }

theorem lasting_addClass (cat : Catalog) (info : ClassInfo) :
    { cat with classes := cat.classes ++ [info] }.lasting = cat.lasting.add info := by
  rw [lasting, List.map_append]
  rfl

/-- What is known of the class that was added last. -/
theorem outline_info_last {l : Lasting} {info : ClassInfo} (h : cat.lasting = l.add info) :
    (cat.info (.declared l.outlines.length)).outline = info.outline := by
  rw [outline_info_declared, h, Lasting.add]
  simp

/-- What is known of the other classes does not change where one is added. -/
theorem outline_info_of_add {l : Lasting} {info : ClassInfo} (hcat : cat.lasting = l)
    (hcat' : cat'.lasting = l.add info) {id : ClassId} (hid : id ≠ .declared l.outlines.length) :
    (cat'.info id).outline = (cat.info id).outline := by
  cases id with
  | builtin b => rfl
  | declared n =>
      rw [outline_info_declared, outline_info_declared, hcat, hcat', Lasting.add]
      rcases Nat.lt_trichotomy n l.outlines.length with hn | rfl | hn
      · exact List.getD_append _ _ _ _ hn
      · exact absurd rfl hid
      · rw [List.getD_eq_default _ _ (Nat.le_of_lt hn), List.getD_eq_default]
        rw [List.length_append, List.length_singleton]
        exact hn

/-- A change of the class that was added last. -/
theorem lasting_updateInfo_last {l : Lasting} {info : ClassInfo} {f : ClassInfo → ClassInfo}
    (hf : ∀ i, (f i).outline = f i.outline) (hcat : cat.lasting = l.add info) :
    (cat.updateInfo (.declared l.outlines.length) f).lasting = l.add (f info.outline) := by
  have hclasses : cat.classes.map ClassInfo.outline = l.outlines ++ [info.outline] :=
    congrArg Lasting.outlines hcat
  have hdescriptions : cat.descriptions = l.descriptions := congrArg Lasting.descriptions hcat
  have hregistered : cat.registered = l.registered := congrArg Lasting.registered hcat
  have hlast : (f info.outline).outline = f info.outline := (hf info.outline).trans rfl
  rw [updateInfo, lasting, Lasting.add, hdescriptions, hregistered, map_modify hf, hclasses, hlast,
    List.modify_eq_take_drop]
  simp

/-! ## What follows from what lasts -/

/-- A property that a catalog has by what lasts of it. -/
class OfLasting (I : Catalog → Prop) : Prop where
  keep {cat cat' : Catalog} : cat'.lasting = cat.lasting → I cat → I cat'

instance (l : Lasting) : OfLasting (·.lasting = l) where
  keep hlasting h := hlasting.trans h

end Catalog

/-! ## Steps that leave alone what lasts -/

namespace Declaring

open Catalog (OfLasting)

variable {α : Type} {I : Catalog → Prop}

/-! ### Steps that only read -/

theorem keeps_nextClass : Keeps I nextClass :=
  ensures_get.bind fun _ _ => keeps_pure _

theorem keeps_modelVariables (name : String) (frame : ClassFrame) (mro : List ClassRef)
    (own : List TypeVar) : Keeps I (modelVariables name frame mro own) := by
  refine ensures_get.bind fun cat _ => .ite (keeps_pure _) ?_
  exact ensures_throw _

theorem keeps_checkModelBody (site : Site) (form : ClassForm) (head : ClassHead)
    (bases : List ClassRef) (body : ClassBody) :
    Keeps I (checkModelBody site form head bases body) := by
  refine ensures_get.bind fun cat _ => .unless (.unless ?_)
  refine (keeps_check _ _).then fun _ => ?_
  split
  · exact ensures_throw _
  · exact keeps_pure _

/-! ### Evaluations -/

variable [OfLasting I]

theorem ensures_evaluate {P : α → Prop} {topLevel : Option String} {action : Catalog → Eval α}
    (h : ∀ cat, (action cat).Returns P) :
    Ensures I (evaluate topLevel action) P := by
  refine ensures_get.bind fun cat hcat => ?_
  have hrun : Ensures I (check .evaluation ((action cat).run (cat.newTrace topLevel)))
      fun p => P p.1 := ensures_check fun p hp => h cat _ p.1 p.2 hp
  refine hrun.bind fun p hp => .set_check (fun cat' hcommit => ?_) (.pure hp)
  exact OfLasting.keep (Catalog.lasting_commit hcommit) hcat

theorem keeps_evaluate (topLevel : Option String) (action : Catalog → Eval α) :
    Keeps I (evaluate topLevel action) :=
  ensures_evaluate fun cat => Eval.returns_true (action cat)

theorem keeps_valueAt (site : Site) (e : Expression) : Keeps I (valueAt site e) :=
  keeps_evaluate _ _

/-! ### The head of a class -/

theorem keeps_makeRow (site : Site) (row : FieldRow TypeExpr) :
    Keeps I (makeRow site row) := by
  refine (keeps_valueAt site _).then fun maker => ?_
  split
  · exact (keeps_check _ _).then fun _ => keeps_pure _
  · exact (keeps_evaluate _ _).then fun made => ensures_get.bind fun cat _ => keeps_pure _

theorem keeps_evaluateRows (site : Site) (rows : List (FieldRow Expression)) (eachMade : Bool) :
    Keeps I (evaluateRows site rows eachMade) := by
  refine keeps_mapM (fun row => ?_) rows
  have hlast (row : FieldRow TypeExpr) :
      Keeps I (if eachMade then makeRow site row else pure row) :=
    .ite (keeps_makeRow site row) (keeps_pure row)
  cases row with
  | field name type description =>
      exact (keeps_valueAt site type).then fun _ => (keeps_pure _).then fun _ => hlast _
  | malformed entries type =>
      refine Ensures.then (keeps_optionMapM (fun e => ?_) type) fun _ => ?_
      · exact keeps_valueAt site e
      · exact (keeps_pure _).then fun _ => hlast _
  | single kind => exact (keeps_pure _).then fun _ => hlast _

theorem keeps_calling (site : Site) (path : List String) (args : Arguments) (own : Decorator) :
    Keeps I (calling site path args own) := by
  refine (keeps_valueAt site _).then fun function => .ite (keeps_pure _) ?_
  exact (keeps_evaluate _ _).then fun _ => keeps_pure _

theorem keeps_decoratorsOf (site : Site) (form : ClassForm) (head : ClassHead) :
    Keeps I (decoratorsOf site form head) := by
  refine (keeps_optionMapM (fun text => keeps_calling _ _ _ _) _).then fun described => ?_
  refine Ensures.then (keeps_optionMapM (fun rows => ?_) _) fun registered => ?_
  · refine (keeps_valueAt site _).then fun _ => ?_
    exact (keeps_evaluateRows site rows false).then fun _ => keeps_calling _ _ _ _
  · split
    · exact (keeps_calling _ _ _ _).then fun _ => (keeps_pure _).then fun _ => keeps_pure _
    · exact (keeps_pure _).then fun _ => keeps_pure _

theorem keeps_openClass (site : Site) (form : ClassForm) (head : ClassHead) :
    Keeps I (openClass site form head) := by
  unfold openClass
  split
  · refine (keeps_valueAt site _).then fun function => .ite ?_ (keeps_pure _)
    exact (keeps_evaluate _ _).then fun _ => keeps_pure _
  · refine (keeps_decoratorsOf site form head).then fun decorators => ?_
    refine (keeps_mapM (keeps_valueAt site) _).then fun written => ensures_get.bind fun cat _ => ?_
    refine (keeps_check _ _).then fun bases => ?_
    dsimp only
    -- Where the kind is given by a base that is a function, what creates the class is fixed.
    split
    all_goals
      refine Ensures.then ?_ fun metaclass => .ite ?_ ?_
      · first
        | exact keeps_pure _
        | exact keeps_check _ _
      · exact (keeps_check _ _).then fun _ => keeps_pure _
      · exact (keeps_pure _).then fun _ => keeps_pure _

/-! ### The body and the class -/

theorem keeps_specified (form : ClassForm) : Keeps I (specified form) :=
  keeps_modifyGet fun cat hcat => by
    refine OfLasting.keep ?_ hcat
    rfl

theorem keeps_settleParams (form : ClassForm) (frame : ClassFrame) (info : ClassInfo) :
    Keeps I (settleParams form frame info) := by
  refine ensures_get.bind fun cat _ => ?_
  split
  · exact (keeps_evaluate _ _).then fun _ => keeps_pure _
  · exact ensures_get.bind fun cat _ => keeps_check _ _

/-! ### Other declarations -/

theorem keeps_ensureModule (module : String) : Keeps I (ensureModule module) := by
  refine keeps_modify fun cat hcat => OfLasting.keep ?_ hcat
  split <;> rfl

theorem keeps_rebuildModel (t : TypeExpr) : Keeps I (rebuildModel t) := by
  refine ensures_get.bind fun cat hcat => ?_
  split
  · next c _ =>
    have hcheck : Ensures I (check .evaluation (cat.rebuild c)) I :=
      ensures_check fun _ h =>
        OfLasting.keep (Catalog.lasting_rebuild h) hcat
    exact hcheck.bind fun cat' hcat' => keeps_set hcat'
  · exact (keeps_evaluate _ _).then fun _ => keeps_pure _

theorem keeps_makeVariable (site : Site) (maker : String) (make : TypeVar → TypeExpr)
    (name : String) (type : Option Expression) :
    Keeps I (makeVariable site maker make name type) := by
  refine (keeps_valueAt _ _).then fun function => ?_
  refine (keeps_mapM (keeps_valueAt site) _).then fun others => .ite ?_ (keeps_evaluate _ _)
  refine keeps_modifyGet fun cat hcat => OfLasting.keep ?_ hcat
  rfl

end Declaring

end TypeSchema
