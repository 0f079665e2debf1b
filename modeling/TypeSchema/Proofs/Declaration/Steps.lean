import Mathlib.Logic.Relation
import TypeSchema.Proofs.Declaration.Lasting
import TypeSchema.Proofs.OrderedMap
/-!
# The steps in which catalogs grow

However much a declaration evaluates, it does three things to the classes of a catalog: it leaves
them alone, it adds a class, or it makes the class that was added last a dataclass (`Catalog.Step`).
Whatever is known of a class besides is its *core*, and is settled when the class is added.

A catalog that a program can make comes about by such steps (`Catalog.Declared.evolves`). An invariant
of all programs is proved by induction over them, and need not look at declarations again.
-/

namespace TypeSchema

/-- What is known of a class, without what it may still be told: how it is called, its attributes and
its fields as a model. -/
def ClassInfo.core (info : ClassInfo) : ClassInfo :=
  { info with qualname := "", module := none, attributes := [], model := none }

/-- The class as a dataclass with some fields. -/
def ClassInfo.withDataFields (fields : List DataField) (info : ClassInfo) : ClassInfo :=
  { info with dataFields := some fields }

/-- What every class is when it is added. -/
structure ClassInfo.IsNew (info : ClassInfo) : Prop where
  annotations : (OrderedMap.keys info.annotations).Nodup
  members : info.members.Nodup
  dataFields : info.dataFields = none

namespace Catalog

/-- The catalogs that a program can make: by declarations, any of which may have failed, and by
evaluating expressions. -/
inductive Declared : Catalog → Prop
  | empty : Declared .empty
  | declare {cat} (d : Decl) : Declared cat → Declared (cat.declare d).2
  | evaluate {cat cat' : Catalog} {e t} : Declared cat → cat.evaluate e = .ok (t, cat') →
      Declared cat'

/-- The cores of the classes. -/
def cores (cat : Catalog) : List ClassInfo := cat.classes.map ClassInfo.core

/-- What a catalog can become in one step. -/
inductive Step (cat cat' : Catalog) : Prop
  | keep (h : cat'.cores = cat.cores)
  /-- A class is added, followed by what its bases are followed by. -/
  | add (info : ClassInfo) (hnew : info.IsNew)
      (horder : cat.searchOrder ⟨.declared cat.classes.length, []⟩ info.bases = .ok info.mro)
      (h : cat'.cores = cat.cores ++ [info.core])
  /-- No class that was added later is a dataclass yet. -/
  | decorate (n : Nat) (options : List (String × FieldOptions)) (fields : List DataField)
      (hlast : ∀ i > n, (cat.info (.declared i)).dataFields = none)
      (hfields : cat.dataFieldsOf ⟨.declared n, []⟩ options = .ok fields)
      (h : cat'.cores = cat.cores.modify n (ClassInfo.withDataFields fields))

/-- What a catalog can become. -/
abbrev Evolves : Catalog → Catalog → Prop := Relation.ReflTransGen Step

/-- A class is made of a catalog's own, with number `n`, and none after it is a dataclass. -/
structure Opened (start : Catalog) (n : Nat) (cat : Catalog) : Prop where
  evolves : Evolves start cat
  last : ∀ i > n, (cat.info (.declared i)).dataFields = none

/-- The class is not there yet: as far as classes go, the catalog is the one before it. -/
structure Ready (start : Catalog) (n : Nat) (before cat : Catalog) : Prop where
  opened : Opened start n cat
  cores : cat.cores = before.cores

variable {cat cat' start before : Catalog} {n : Nat}

/-! ## Cores -/

theorem core_info_declared (cat : Catalog) (n : Nat) :
    (cat.info (.declared n)).core = cat.cores.getD n (builtinInfo .object).core :=
  (List.getD_map ..).symm

theorem core_info_of_cores (h : cat'.cores = cat.cores) (id : ClassId) :
    (cat'.info id).core = (cat.info id).core := by
  cases id with
  | builtin b => rfl
  | declared n => rw [core_info_declared, core_info_declared, h]

theorem length_cores (cat : Catalog) : cat.cores.length = cat.classes.length := List.length_map _

theorem dataFields_of_core {info info' : ClassInfo} (h : info'.core = info.core) :
    info'.dataFields = info.dataFields := by
  have hdata : info'.core.dataFields = info.core.dataFields := congrArg ClassInfo.dataFields h
  exact hdata

/-- There is nothing to know of a class that was not added. -/
theorem core_info_of_length_le {i : Nat} (h : cat.cores.length ≤ i) :
    (cat.info (.declared i)).core = (builtinInfo .object).core := by
  rw [core_info_declared, List.getD_eq_default _ _ h]

/-- A change of one class leaves the others as they are. -/
theorem core_info_of_modify {f : ClassInfo → ClassInfo} (h : cat'.cores = cat.cores.modify n f)
    {i : Nat} (hi : i ≠ n) : (cat'.info (.declared i)).core = (cat.info (.declared i)).core := by
  have hsame : (cat.cores.modify n f)[i]? = cat.cores[i]? := by
    rw [List.getElem?_modify]
    simp only [if_neg (Ne.symm hi), id_map']
  rw [core_info_declared, core_info_declared, h, List.getD_eq_getElem?_getD, hsame,
    ← List.getD_eq_getElem?_getD]

/-- A class is changed unless it is not there. -/
theorem core_info_of_modify_self {f : ClassInfo → ClassInfo}
    (h : cat'.cores = cat.cores.modify n f) :
    (cat'.info (.declared n)).core = f (cat.info (.declared n)).core ∨
      (cat'.info (.declared n)).core = (cat.info (.declared n)).core ∧
        (cat.info (.declared n)).dataFields = none := by
  rcases Nat.lt_or_ge n cat.cores.length with hn | hn
  · have hsome : cat'.cores[n]? = some (f cat.cores[n]) := by
      rw [h, List.getElem?_modify]
      simp only [if_true, List.getElem?_eq_getElem hn]
      rfl
    refine .inl ?_
    rw [core_info_declared, core_info_declared, List.getD_eq_getElem?_getD, hsome,
      List.getD_eq_getElem _ _ hn]
    rfl
  · have hn' : cat'.cores.length ≤ n := by rwa [h, List.length_modify]
    have hnone := core_info_of_length_le hn
    exact .inr ⟨(core_info_of_length_le hn').trans hnone.symm, dataFields_of_core hnone⟩

/-- A class more leaves the others as they are. -/
theorem core_info_of_add {info : ClassInfo} (h : cat'.cores = cat.cores ++ [info.core]) {i : Nat}
    (hi : i < cat.cores.length) :
    (cat'.info (.declared i)).core = (cat.info (.declared i)).core := by
  rw [core_info_declared, core_info_declared, h, List.getD_append _ _ _ _ hi]

/-- The new class is the next one. -/
theorem core_info_of_add_self {info : ClassInfo} (h : cat'.cores = cat.cores ++ [info.core]) :
    (cat'.info (.declared cat.cores.length)).core = info.core := by
  rw [core_info_declared, h, List.getD_append_right _ _ _ _ (Nat.le_refl _), Nat.sub_self]
  rfl

/-- A new class is no dataclass, and none is after it. -/
theorem dataFields_of_add {info : ClassInfo} (hnew : info.IsNew)
    (h : cat'.cores = cat.cores ++ [info.core]) {i : Nat} (hi : cat.cores.length ≤ i) :
    (cat'.info (.declared i)).dataFields = none := by
  rcases Nat.eq_or_lt_of_le hi with rfl | hi
  · exact (dataFields_of_core (core_info_of_add_self h)).trans hnew.dataFields
  · have hlength : cat'.cores.length ≤ i := by rwa [h, List.length_append]
    exact dataFields_of_core (core_info_of_length_le hlength)

theorem mro_of_cores (h : cat'.cores = cat.cores) (c : ClassRef) : cat'.mro c = cat.mro c := by
  have hmro : (cat'.info c.id).mro = (cat.info c.id).mro :=
    (congrArg ClassInfo.mro (core_info_of_cores h c.id) :)
  rw [mro, mro, hmro]

/-- What a class is derived from: its bases, or else the class of all objects. -/
def basesOrObject (bases : List ClassRef) : List ClassRef :=
  if bases.isEmpty then [.builtin .object] else bases

/-- A class has an order if its bases differ and their orders go together. -/
theorem searchOrder_eq_ok_iff {c : ClassRef} {bases order : List ClassRef} :
    cat.searchOrder c bases = .ok order ↔
      (∀ p ∈ (basesOrObject bases).zipIdx,
        ((basesOrObject bases).drop (p.2 + 1)).contains p.1 = false) ∧
      Linearization.ofBases c ((basesOrObject bases).map fun b => (b, cat.mro b)) =
        some order := by
  unfold searchOrder basesOrObject
  extract_lets listed orders finish
  have hfinish : finish ⟨⟩ = .ok order ↔
      Linearization.ofBases c (listed.map fun b => (b, cat.mro b)) = some order := by
    dsimp only [finish]
    split
    · next mro heq =>
      rw [heq]
      exact ⟨fun h => congrArg some (Except.ok.inj h),
        fun h => congrArg Except.ok (Option.some.inj h)⟩
    · next hnone =>
      rw [hnone]
      exact ⟨nofun, nofun⟩
  cases hfind : listed.zipIdx.find? fun p => (listed.drop (p.2 + 1)).contains p.1 with
  | some p =>
      have hp := List.find?_some hfind
      refine ⟨fun h => absurd h nofun, fun h => ?_⟩
      rw [h.1 p (List.mem_of_find?_eq_some hfind)] at hp
      exact absurd hp nofun
  | none =>
      rw [← hfinish, and_iff_right]
      exact fun p hp => Bool.eq_false_iff.mpr (List.find?_eq_none.mp hfind p hp)

theorem searchOrder_of_cores (h : cat'.cores = cat.cores) {c : ClassRef}
    {bases order : List ClassRef} (horder : cat.searchOrder c bases = .ok order) :
    cat'.searchOrder c bases = .ok order := by
  rw [searchOrder_eq_ok_iff] at horder ⊢
  simp only [mro_of_cores h]
  exact horder

theorem cores_of_lasting (h : cat'.lasting = cat.lasting) : cat'.cores = cat.cores := by
  have hcores (cat : Catalog) : cat.cores = cat.lasting.outlines.map ClassInfo.core := by
    rw [lasting, List.map_map]
    rfl
  rw [hcores, hcores, h]

theorem cores_addClass (cat : Catalog) (info : ClassInfo) :
    { cat with classes := cat.classes ++ [info] }.cores = cat.cores ++ [info.core] :=
  List.map_append

/-- A change of one class changes its core. -/
theorem cores_updateInfo_declared {f g : ClassInfo → ClassInfo}
    (hfg : ∀ i, (f i).core = g i.core) (n : Nat) :
    (cat.updateInfo (.declared n) f).cores = cat.cores.modify n g :=
  map_modify hfg cat.classes n

theorem cores_updateInfo {f : ClassInfo → ClassInfo} (hf : ∀ i, (f i).core = i.core)
    (id : ClassId) : (cat.updateInfo id f).cores = cat.cores := by
  cases id with
  | builtin b => rfl
  | declared n =>
      have hmodify : (cat.updateInfo (.declared n) f).cores = cat.cores.modify n id :=
        cores_updateInfo_declared hf n
      rwa [List.modify_id] at hmodify

theorem cores_describe {t : TypeExpr} {text : String} (h : cat.describe t text = .ok cat') :
    cat'.cores = cat.cores := by
  obtain ⟨-, -, hdone⟩ := bind_eq_ok_iff.mp h
  rw [← Except.ok.inj hdone]
  rfl

theorem cores_register {t : TypeExpr} {rows : List (FieldRow TypeExpr)}
    (h : cat.register t rows = .ok cat') : cat'.cores = cat.cores := by
  obtain ⟨fields, -, h⟩ := bind_eq_ok_iff.mp h
  obtain ⟨-, -, hdone⟩ := bind_eq_ok_iff.mp h
  rw [← Except.ok.inj hdone]
  cases t.asClass? <;> rfl

theorem cores_bind (names : List (String × TypeExpr)) (cat : Catalog) :
    (names.foldl (fun cat p => cat.bind p.1 p.2) cat).cores = cat.cores := by
  induction names generalizing cat with
  | nil => rfl
  | cons p names ih => exact ih (cat.bind p.1 p.2)

/-! ## What follows from cores -/

/-- A property that a catalog has by the cores of its classes. -/
class OfCores (I : Catalog → Prop) : Prop where
  keep {cat cat' : Catalog} : cat'.cores = cat.cores → I cat → I cat'

instance (I : Catalog → Prop) [OfCores I] : OfLasting I where
  keep hlasting h := OfCores.keep (cores_of_lasting hlasting) h

instance : OfCores (Evolves start) where
  keep h hcat := hcat.tail (.keep h)

instance : OfCores (Opened start n) where
  keep h hcat :=
    { evolves := hcat.evolves.tail (.keep h)
      last := fun i hi =>
        (dataFields_of_core (core_info_of_cores h (.declared i))).trans (hcat.last i hi) }

instance : OfCores (Ready start n before) where
  keep h hcat := ⟨OfCores.keep h hcat.opened, h.trans hcat.cores⟩

/-- The next class is not there yet, and none after it. -/
theorem Opened.next (h : Evolves start cat) : Opened start cat.classes.length cat where
  evolves := h
  last i hi := dataFields_of_core
    (core_info_of_length_le (by rw [length_cores]; exact Nat.le_of_lt hi))

/-- A new class is no dataclass. -/
theorem Ready.addClass {info : ClassInfo} (h : Ready start n before cat) (hnew : info.IsNew)
    (horder : before.searchOrder ⟨.declared before.classes.length, []⟩ info.bases = .ok info.mro) :
    Opened start n { cat with classes := cat.classes ++ [info] } where
  evolves := by
    have horder' : cat.searchOrder ⟨.declared cat.classes.length, []⟩ info.bases =
        .ok info.mro := by
      rw [← length_cores, h.cores, length_cores]
      exact searchOrder_of_cores h.cores horder
    exact h.opened.evolves.tail (.add info hnew horder' (cores_addClass cat info))
  last i hi := by
    rcases Nat.lt_or_ge i cat.cores.length with hlt | hge
    · have hcore := core_info_of_add (cores_addClass cat info) hlt
      exact (dataFields_of_core hcore).trans (h.opened.last i hi)
    · exact dataFields_of_add hnew (cores_addClass cat info) hge

/-- The class becomes a dataclass. -/
theorem Opened.decorate {options : List (String × FieldOptions)} {fields : List DataField}
    {f : ClassInfo → ClassInfo} (h : Opened start n cat)
    (hfields : cat.dataFieldsOf ⟨.declared n, []⟩ options = .ok fields)
    (hf : ∀ i, (f i).core = i.core.withDataFields fields) :
    Opened start n (cat.updateInfo (.declared n) f) := by
  have hcores : (cat.updateInfo (.declared n) f).cores =
      cat.cores.modify n (ClassInfo.withDataFields fields) := cores_updateInfo_declared hf n
  refine ⟨h.evolves.tail (.decorate n options fields h.last hfields hcores), fun i hi => ?_⟩
  exact (dataFields_of_core (core_info_of_modify hcores (Nat.ne_of_gt hi))).trans (h.last i hi)

end Catalog

/-- What the body of a class binds and annotates are maps: no name comes twice. -/
structure ClassBody.AreMaps (body : ClassBody) : Prop where
  bindings : (OrderedMap.keys body.members.bindings).Nodup
  annotations : (OrderedMap.keys body.annotations).Nodup

/-! ## Declarations go by steps -/

namespace Declaring

open Catalog (OfLasting OfCores Evolves Opened Ready)

variable {α : Type} {I : Catalog → Prop} {start : Catalog} {n : Nat}

/-! ### The body of a class -/

/-- Binding a name in an enumeration puts it into the map, or sets something else. -/
theorem bindings_bindInEnumeration {cat : Catalog} {className name : String} {value : TypeExpr}
    {members members' : EnumerationBody}
    (h : cat.bindInEnumeration className members name value = .ok members') :
    members'.bindings = members.bindings ∨
      members'.bindings = OrderedMap.put name value members.bindings := by
  unfold Catalog.bindInEnumeration at h
  split at h
  · exact .inr (Except.ok.inj h ▸ rfl)
  split at h
  · split at h
    · exact .inl (Except.ok.inj h ▸ rfl)
    split at h
    · obtain ⟨names, -, h⟩ := bind_eq_ok_iff.mp h
      dsimp only at h
      split at h
      · exact .inl (Except.ok.inj h ▸ rfl)
      · exact absurd h nofun
    split at h
    · exact .inr (Except.ok.inj h ▸ rfl)
    · exact absurd h nofun
  split at h
  · split at h
    · exact .inl (Except.ok.inj h ▸ rfl)
    · exact .inr (Except.ok.inj h ▸ rfl)
  split at h
  · split at h
    · exact .inr (Except.ok.inj h ▸ rfl)
    · exact absurd h nofun
  · obtain rfl := Except.ok.inj h
    exact .inr (by split <;> rfl)

section Body

variable {site : Site} {form : ClassForm} {head : ClassHead} {frame : ClassFrame}
  {body : ClassBody}

theorem ensures_bindName {className name : String} {value : TypeExpr} (hbody : body.AreMaps) :
    Ensures I (bindName frame className body name value) ClassBody.AreMaps := by
  have hmembers (cat : Catalog) : Ensures I
      (check id (cat.bindInEnumeration className body.members name value))
      fun members => (OrderedMap.keys members.bindings).Nodup := by
    refine ensures_check fun members h => ?_
    rcases bindings_bindInEnumeration h with heq | heq <;> rw [heq]
    · exact hbody.bindings
    · exact OrderedMap.nodup_keys_put name value hbody.bindings
  have hsame : Ensures I (pure body.members)
      fun members => (OrderedMap.keys members.bindings).Nodup := .pure hbody.bindings
  refine .ite (ensures_get.bind fun cat _ => ?_) ?_
  · exact (hmembers cat).bind fun members h => .pure ⟨h, hbody.annotations⟩
  · exact hsame.bind fun members h => .pure ⟨h, hbody.annotations⟩

theorem ensures_annotate {cat : Catalog} {field : String} {t : TypeExpr} (hbody : body.AreMaps) :
    Ensures I (check .body (body.annotate cat field t)) ClassBody.AreMaps := by
  refine ensures_check fun body' h => ?_
  unfold ClassBody.annotate at h
  split at h
  · exact absurd h nofun
  · obtain rfl := Except.ok.inj h
    exact ⟨hbody.bindings, OrderedMap.nodup_keys_put field t hbody.annotations⟩

variable [OfLasting I]

theorem ensures_runField {f : FieldDecl} (hbody : body.AreMaps) :
    Ensures I (runField site form head frame body f) ClassBody.AreMaps := by
  unfold runField
  split
  · exact (keeps_valueAt _ _).then fun t =>
      .pure ⟨hbody.bindings, OrderedMap.nodup_keys_put f.name t hbody.annotations⟩
  · extract_lets name facts scopeOf field finish rest
    have hfinish : ∀ body, body.AreMaps → Ensures I (finish body) ClassBody.AreMaps := by
      intro body hbody
      have hbody' : ClassBody.AreMaps
          (if (f.options.hasDefault || f.options.isCustomized) = true then
            { body with options := OrderedMap.put field f.options body.options } else body) := by
        split
        · exact ⟨hbody.bindings, hbody.annotations⟩
        · exact hbody
      refine .ite ((keeps_pure _).then fun t => ?_) ((keeps_evaluate _ _).then fun t => ?_)
      · exact ensures_get.bind fun cat _ => ensures_annotate hbody'
      · exact ensures_get.bind fun cat _ => ensures_annotate hbody'
    have hrest : Ensures I (rest ()) ClassBody.AreMaps := by
      refine .ite ((keeps_specified form).then fun value => ?_) (.ite ?_ ?_)
      · exact (ensures_bindName hbody).bind hfinish
      · exact (ensures_bindName hbody).bind hfinish
      · exact (Ensures.pure hbody).bind hfinish
    exact .ite ((keeps_evaluate _ _).then fun _ => hrest) hrest

theorem ensures_runBody {inner : List (String × TypeExpr)} :
    Ensures I (runBody site form head frame inner) ClassBody.AreMaps := by
  have hempty : ClassBody.AreMaps .empty := ⟨List.nodup_nil, List.nodup_nil⟩
  refine (ensures_foldlM _ (fun body p _ hbody => ensures_bindName hbody) hempty).bind
    fun body hbody => ?_
  exact ensures_foldlM _ (fun body f _ hbody => ensures_runField hbody) hbody

end Body

/-! ### The class -/

variable {before : Catalog}

/-- What moves a catalog before the class to one with the class keeps the catalog well made. -/
theorem keeps_of_moves {a : Declaring α}
    (h : ∀ before, Moves (Ready start n before) a (Opened start n)) : Keeps (Opened start n) a :=
  fun cat hcat => ⟨(h cat cat ⟨hcat, rfl⟩).elim Ready.opened id, fun _ _ => trivial⟩

theorem ensures_nextClass_of_ready : Ensures (Ready start n before) nextClass
    fun c => c = ⟨.declared before.classes.length, []⟩ := by
  refine ensures_get.bind fun cat hcat => .pure ?_
  rw [← Catalog.length_cores, hcat.cores, Catalog.length_cores]

section Class

variable {site : Site} {form : ClassForm} {head : ClassHead} {frame : ClassFrame}
  {bases : List ClassRef} {body : ClassBody}

/-- A class is prepared with the annotations of its body, without members, and in the order of its
bases. -/
structure Prepared (before : Catalog) (body : ClassBody) (info : ClassInfo) : Prop where
  annotations : info.annotations = body.annotations
  members : info.members = []
  dataFields : info.dataFields = none
  order : before.searchOrder ⟨.declared before.classes.length, []⟩ info.bases = .ok info.mro

theorem ensures_prepareInfo : Ensures (Ready start n before)
    (prepareInfo site form head frame bases body) (Prepared before body) := by
  refine ensures_nextClass_of_ready.bind fun c hc => ensures_get.bind fun cat hcat => ?_
  subst hc
  refine (keeps_check _ _).then fun best => (keeps_check _ _).then fun slots => ?_
  extract_lets layout info finish
  have horder : Ensures (Ready start n before) (check .base (cat.searchOrder _ bases)) fun mro =>
      before.searchOrder ⟨.declared before.classes.length, []⟩ bases = .ok mro :=
    ensures_check fun mro hmro => Catalog.searchOrder_of_cores hcat.cores.symm hmro
  have hfinish (qualname : String) :
      Ensures (Ready start n before) (finish qualname) (Prepared before body) :=
    (keeps_check _ _).then fun _ => horder.bind fun mro hmro => .pure ⟨rfl, rfl, rfl, hmro⟩
  split
  · exact .unless (Ensures.then (ensures_throw _) hfinish)
  · exact (keeps_check _ _).then hfinish

/-- A class has no member under the names that it is prepared with. -/
theorem Prepared.isNew {info info' : ClassInfo} (h : Prepared before body info)
    (hannotations : (OrderedMap.keys info'.annotations).Nodup)
    (hmembers : info'.members = info.members) (hdata : info'.dataFields = info.dataFields) :
    info'.IsNew where
  annotations := hannotations
  members := (hmembers.trans h.members).symm ▸ List.nodup_nil
  dataFields := hdata.trans h.dataFields

theorem moves_addClass {info : ClassInfo} (hnew : info.IsNew)
    (horder : before.searchOrder ⟨.declared before.classes.length, []⟩ info.bases = .ok info.mro) :
    Moves (Ready start n before) (addClass info) (Opened start n) :=
  moves_modify fun _ hcat => hcat.addClass hnew horder

theorem keeps_createPlain (hbody : body.AreMaps) :
    Keeps (Opened start n) (createPlain site form head frame body) := by
  refine keeps_of_moves fun before => ensures_get.bind_moves fun cat _ => ?_
  refine (keeps_check _ _).then_moves fun _ => ensures_prepareInfo.bind_moves fun info hinfo => ?_
  refine (keeps_settleParams form frame info).then_moves fun params => moves_addClass ?_ hinfo.order
  exact hinfo.isNew (hinfo.annotations.symm ▸ hbody.annotations) rfl rfl

/-- The types of a named tuple stand under the names of its annotations. -/
theorem returns_tupleAnnotations (cat : Catalog) (annotations : List (String × TypeExpr)) :
    (cat.tupleAnnotations annotations).Returns
      fun types => OrderedMap.keys types = OrderedMap.keys annotations := by
  refine Eval.Returns.mono (.mapM (R := fun a m => m.1 = a.1) (fun a => ?_) annotations)
    fun types h => OrderedMap.keys_of_forall₂ h
  exact (Eval.returns_true _).bind fun t _ => .pure rfl

theorem keeps_createNamedTuple (hbody : body.AreMaps) :
    Keeps (Opened start n) (createNamedTuple site form head frame body) := by
  refine keeps_of_moves fun before => (keeps_check _ _).then_moves fun _ => .unless ?_
  refine Ensures.bind_moves (ensures_evaluate fun cat => returns_tupleAnnotations cat _)
    fun types htypes => ?_
  refine (keeps_check _ _).then_moves fun _ => ensures_prepareInfo.bind_moves fun info hinfo => ?_
  refine (keeps_settleParams form frame info).then_moves fun params => moves_addClass ?_ hinfo.order
  refine hinfo.isNew ?_ rfl rfl
  rw [hinfo.annotations]
  exact htypes ▸ hbody.annotations

theorem keeps_createTypedDict :
    Keeps (Opened start n) (createTypedDict site form head frame body) := by
  refine keeps_of_moves fun before => ensures_get.bind_moves fun cat _ => .unless ?_
  refine ensures_prepareInfo.bind_moves fun info hinfo => ?_
  refine (keeps_settleParams form frame info).then_moves fun params => ?_
  refine (keeps_evaluate _ _).then_moves fun _ => (keeps_evaluate _ _).then_moves fun own => ?_
  exact moves_addClass (hinfo.isNew (OrderedMap.nodup_keys_ofList _) rfl rfl) hinfo.order

/-- A member is listed after those before it, or not at all. -/
theorem returns_addMember {cat : Catalog} {id : ClassId} {areFlags : Bool}
    {table : Catalog.MemberTable} {name : String} {value : TypeExpr} :
    (cat.addMember id areFlags table name value).Returns
      fun table' => table'.names.Sublist (table.names ++ [name]) := by
  refine (Eval.returns_true _).bind fun known _ => ?_
  cases known with
  | some t => exact .pure (List.sublist_append_left _ _)
  | none =>
      refine .ite ((Eval.returns_true _).bind fun isListed _ => .pure ?_)
        ((Eval.returns_true _).bind fun isListed _ => .pure ?_)
      all_goals
        split
        · exact List.Sublist.refl _
        · exact List.sublist_append_left _ _

theorem returns_foldlM {step : Catalog.MemberTable → String × TypeExpr → Eval Catalog.MemberTable}
    (hstep : ∀ table p, (step table p).Returns
      fun table' => table'.names.Sublist (table.names ++ [p.1]))
    (bindings : List (String × TypeExpr)) (table : Catalog.MemberTable) :
    (bindings.foldlM step table).Returns
      fun table' => table'.names.Sublist (table.names ++ OrderedMap.keys bindings) := by
  induction bindings generalizing table with
  | nil => exact .pure (List.sublist_append_left _ _)
  | cons p rest ih =>
      rw [List.foldlM_cons]
      refine (hstep table p).bind fun first hfirst trace table' trace' hrun => ?_
      have hrest : table'.names.Sublist (first.names ++ OrderedMap.keys rest) := ih first _ _ _ hrun
      have hall := hrest.trans (hfirst.append_right (OrderedMap.keys rest))
      rwa [List.append_assoc] at hall

theorem returns_enumerationMembers {cat : Catalog} {id : ClassId} {bases mro : List ClassRef}
    {dataType : Option ClassRef} {body : EnumerationBody} :
    (cat.enumerationMembers id bases mro dataType body).Returns
      fun table => table.names.Sublist (OrderedMap.keys body.bindings) := by
  intro trace table trace' hrun
  refine (returns_foldlM (fun table p => ?_) _ _ _ _ _ hrun).trans (List.filter_sublist.map _)
  refine .ite (.pure (List.sublist_append_left _ _)) ?_
  split
  · exact (Eval.returns_true _).bind fun _ _ => returns_addMember
  · exact (Eval.returns_true _).bind fun _ _ => returns_addMember

theorem keeps_createEnumeration (hbody : body.AreMaps) :
    Keeps (Opened start n) (createEnumeration site form head frame body) := by
  refine keeps_of_moves fun before => ensures_get.bind_moves fun cat _ => .unless ?_
  refine ensures_prepareInfo.bind_moves fun info hinfo => keeps_nextClass.then_moves fun c => ?_
  refine Ensures.bind_moves (ensures_evaluate fun cat => returns_enumerationMembers)
    fun table htable => ?_
  refine (keeps_settleParams form frame info).then_moves fun params => ?_
  refine (keeps_check _ _).then_moves fun _ => .unless (moves_addClass ?_ hinfo.order)
  exact ⟨hinfo.annotations.symm ▸ hbody.annotations, htable.nodup hbody.bindings, hinfo.dataFields⟩

theorem keeps_createModel (hbody : body.AreMaps) :
    Keeps (Opened start n) (createModel site form head frame body) := by
  refine keeps_of_moves fun before => (keeps_checkModelBody _ _ _ _ _).then_moves fun _ => ?_
  refine ensures_get.bind_moves fun cat _ => ensures_prepareInfo.bind_moves fun info hinfo => ?_
  refine (keeps_settleParams form frame info).then_moves fun own => ?_
  refine (keeps_modelVariables _ _ _ _).then_moves fun params => ?_
  refine ensures_get.bind_moves fun cat _ => keeps_nextClass.then_moves fun c => ?_
  refine moves_modify_then (fun cat hcat => hcat.addClass ?_ hinfo.order) ?_
  · exact hinfo.isNew (hinfo.annotations.symm ▸ hbody.annotations) rfl rfl
  -- The class is there now; that its fields are set changes nothing of its core.
  refine (keeps_evaluate _ _).then fun annotations => ensures_get.bind fun cat _ => ?_
  refine (keeps_check _ _).then fun _ => (keeps_check _ _).then fun inherited => ?_
  refine keeps_modify fun cat hcat => ?_
  have hset (fields : List ModelField) : Opened start n (cat.setFields c fields) :=
    OfLasting.keep (Catalog.lasting_setFields c fields) hcat
  refine OfCores.keep (Catalog.cores_updateInfo (fun i => ?_) c.id) (hset _)
  rfl

end Class

/-! ### Decorators -/

/-- What is called in the place of a description or of a field list makes no dataclass. -/
theorem ensures_calling [OfLasting I] {site : Site} {path : List String} {args : Arguments}
    {own : Decorator} (hown : own ≠ .dataclass) :
    Ensures I (calling site path args own) fun decorator => decorator ≠ .dataclass :=
  (keeps_valueAt site _).then fun _ =>
    .ite (.pure hown) ((keeps_evaluate _ _).then fun _ => .pure nofun)

theorem keeps_decorate_other [OfCores I] (c : ClassRef) (options : List (String × FieldOptions))
    (t : TypeExpr) {decorator : Decorator} (h : decorator ≠ .dataclass) :
    Keeps I (decorate c options t decorator) := by
  cases decorator with
  | describe text =>
      refine ensures_get.bind fun cat hcat => .set_check (fun cat' hdescribe => ?_) (keeps_pure _)
      exact OfCores.keep (Catalog.cores_describe hdescribe) hcat
  | register rows =>
      refine ensures_get.bind fun cat hcat => .set_check (fun cat' hregister => ?_) (keeps_pure _)
      exact OfCores.keep (Catalog.cores_register hregister) hcat
  | dataclass => exact absurd rfl h
  | other function => exact keeps_evaluate _ _

/-- The class that is being made may become a dataclass. -/
theorem keeps_decorate (options : List (String × FieldOptions)) (t : TypeExpr)
    (decorator : Decorator) :
    Keeps (Opened start n) (decorate ⟨.declared n, []⟩ options t decorator) := by
  cases decorator with
  | dataclass =>
      refine .modify_check (fun cat fields hcat hfields => hcat.decorate hfields fun i => ?_)
        (keeps_pure _)
      rfl
  | _ => exact keeps_decorate_other _ _ _ nofun

/-- What goes on with the next class may count on it being the last. -/
theorem ensures_nextClass_bind {f : ClassRef → Declaring α} {P : α → Prop}
    (hf : ∀ n, Ensures (Opened start n) (f ⟨.declared n, []⟩) P) :
    Ensures (Evolves start) (nextClass >>= f) P := by
  intro cat hcat
  have hrun : (nextClass >>= f).run.run cat =
      (f ⟨.declared cat.classes.length, []⟩).run.run cat := rfl
  obtain ⟨hopened, hresult⟩ := hf cat.classes.length cat (.next hcat)
  rw [hrun]
  exact ⟨hopened.evolves, hresult⟩

theorem keeps_closeClass (site : Site) (form : ClassForm) (head : ClassHead) (frame : ClassFrame)
    (inner : List (String × TypeExpr)) :
    Keeps (Evolves start) (closeClass site form head frame inner) := by
  refine ensures_runBody.bind fun body hbody => ensures_nextClass_bind fun n => ?_
  let c : ClassRef := ⟨.declared n, []⟩
  have hlast : Keeps (Opened start n) (do
      return (c, ← frame.decorators.foldlM (decorate c body.options) c.toExpr)) := by
    refine Ensures.then (ensures_foldlM _ (fun t decorator _ _ => ?_) trivial) fun _ => keeps_pure _
    exact keeps_decorate body.options t decorator
  split
  · exact (keeps_createPlain hbody).then fun _ => hlast
  · exact (keeps_createNamedTuple hbody).then fun _ => hlast
  · exact keeps_createTypedDict.then fun _ => hlast
  · exact (keeps_createEnumeration hbody).then fun _ => hlast
  · exact (keeps_createModel hbody).then fun _ => hlast

/-! ### Whole declarations -/

section Declarations

variable [OfCores I]

theorem keeps_renameClass (head : ClassHead) (c : ClassRef) : Keeps I (renameClass head c) := by
  have hupdate (f : ClassInfo → ClassInfo) (hf : ∀ i, (f i).core = i.core) :
      Keeps I (modify fun cat => cat.updateInfo c.id f) :=
    keeps_modify fun cat hcat => OfCores.keep (Catalog.cores_updateInfo hf c.id) hcat
  unfold renameClass
  extract_lets qualname
  have hqualname : Keeps I (qualname ()) := by
    dsimp only [qualname]
    split
    · refine hupdate _ fun i => ?_
      rfl
    · exact ensures_get.bind fun cat _ => ensures_throw _
    · exact keeps_pure _
  split
  · refine Ensures.then (hupdate _ fun i => ?_) fun _ => hqualname
    rfl
  · exact hqualname

end Declarations

mutual

theorem keeps_declareAt :
    (d : Decl) → (site : Site) → Keeps (Evolves start) (declareAt site d)
  | .cls form head body, site => by
    rw [declareAt]
    refine (keeps_ensureModule _).then fun _ => (keeps_openClass _ _ _).then fun frame => ?_
    refine (keeps_declareAllAt body _).then fun inner => (keeps_closeClass _ _ _ _ _).then ?_
    exact fun closed => (keeps_renameClass _ _).then fun _ => keeps_pure _
  | .typeVar name module, site => by
    rw [declareAt]
    refine (keeps_ensureModule _).then fun _ => (keeps_makeVariable _ _ _ _ _).then fun _ => ?_
    exact keeps_pure _
  | .newType name module type, site => by
    rw [declareAt]
    refine (keeps_ensureModule _).then fun _ => (keeps_makeVariable _ _ _ _ _).then fun _ => ?_
    exact keeps_pure _
  | .synonym name module type, site => by
    rw [declareAt]
    exact (keeps_ensureModule _).then fun _ => (keeps_valueAt _ _).then fun _ => keeps_pure _
  | .describe target text, site => by
    rw [declareAt]
    have hown : Decorator.describe text ≠ .dataclass := nofun
    refine (ensures_calling hown).bind fun decorator hdecorator => ?_
    refine (keeps_valueAt _ _).then fun t => ?_
    exact (keeps_decorate_other _ _ _ hdecorator).then fun _ => keeps_pure _
  | .register target rows eachMade, site => by
    rw [declareAt]
    refine (keeps_valueAt _ _).then fun function => (keeps_valueAt _ _).then fun t => ?_
    refine (keeps_evaluateRows _ _ _).then fun rows => .ite (ensures_get.bind fun cat hcat => ?_) ?_
    · refine .set_check (fun cat' hregister => ?_) (keeps_pure _)
      exact OfCores.keep (Catalog.cores_register hregister) hcat
    · exact (keeps_evaluate _ _).then fun _ => keeps_pure _
  | .rebuild target, site => by
    rw [declareAt]
    refine (keeps_valueAt _ _).then fun t => (keeps_rebuildModel t).then fun _ => keeps_pure _

theorem keeps_declareAllAt : (ds : List Decl) → (site : Site) →
    Keeps (Evolves start) (declareAllAt site ds)
  | [], site => by
    rw [declareAllAt]
    exact keeps_pure _
  | d :: ds, site => by
    rw [declareAllAt]
    refine (keeps_declareAt d site).then fun first => ?_
    exact (keeps_declareAllAt ds _).then fun others => keeps_pure _

end

theorem keeps_declare (d : Decl) : Keeps (Evolves start) (declare d) :=
  (keeps_declareAt d .top).then fun names => keeps_modify fun cat hcat =>
    OfCores.keep (Catalog.cores_bind names cat) hcat

end Declaring

/-- Whatever a program does, its catalog grows by steps. -/
theorem Catalog.Declared.evolves {cat : Catalog} (h : cat.Declared) : Evolves .empty cat := by
  induction h with
  | empty => exact .refl
  | declare d _ ih => exact (Declaring.keeps_declare d _ ih).1
  | evaluate _ heval ih =>
      obtain ⟨⟨t, trace⟩, -, heval⟩ := bind_eq_ok_iff.mp heval
      obtain ⟨cat', hcommit, hdone⟩ := bind_eq_ok_iff.mp heval
      obtain ⟨-, rfl⟩ := Prod.mk.inj (Except.ok.inj hdone)
      exact OfLasting.keep (lasting_commit hcommit) ih

/-- What new classes have in common stays true of all classes if it does not depend on which of them
are dataclasses. -/
theorem Catalog.Declared.forall_cores {cat : Catalog} {Q : ClassInfo → Prop} (h : cat.Declared)
    (hnew : ∀ info : ClassInfo, info.IsNew → Q info.core)
    (hdata : ∀ (info : ClassInfo) fields, Q info → Q (info.withDataFields fields)) :
    ∀ info ∈ cat.cores, Q info := by
  have hevolves : Evolves .empty cat := h.evolves
  clear h
  induction hevolves with
  | refl => exact fun _ hinfo => absurd hinfo List.not_mem_nil
  | tail _ hstep ih =>
      cases hstep with
      | keep hcores => rwa [hcores]
      | add info hinfo _ hcores =>
          rw [hcores]
          intro other hother
          rcases List.mem_append.mp hother with hother | hother
          · exact ih other hother
          · exact List.mem_singleton.mp hother ▸ hnew info hinfo
      | decorate n options fields hlast hfields hcores =>
          rw [hcores]
          intro other hother
          obtain ⟨j, hj, rfl⟩ := List.mem_iff_getElem.mp hother
          rw [List.getElem_modify]
          rw [List.length_modify] at hj
          split
          · exact hdata _ _ (ih _ (List.getElem_mem hj))
          · exact ih _ (List.getElem_mem hj)

end TypeSchema
