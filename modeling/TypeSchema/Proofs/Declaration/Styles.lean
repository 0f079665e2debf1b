import TypeSchema.Proofs.Declaration.Lasting
import TypeSchema.Proofs.Styles
/-!
# Class statements of the styles

A class statement that gives fields their names and annotations, and nothing else, has a form for each
style. Whatever the style, it adds one class that has the name of the statement and the ancestors of
its style, and changes nothing else that lasts (`Declaring.yields_closeClass`).
-/

namespace TypeSchema

namespace Style

/-- The form of the class statements of a style. -/
def form : Style → ClassForm
  | plain => .plain
  | dataclass => .dataclass
  | model => .model false
  | namedTuple => .namedTuple
  | typedDict => .typedDict true

/-- What the head of a class statement of a style means that names no bases. -/
def frame : Style → ClassFrame
  | plain => ⟨.plain, ⟨[], []⟩, .plain, none, []⟩
  | dataclass => ⟨.plain, ⟨[], []⟩, .plain, none, [.dataclass]⟩
  | model => ⟨.model, ⟨[.builtin .baseModel], [.builtin .baseModel]⟩, .model, none, []⟩
  | namedTuple => ⟨.namedTuple, ⟨[], []⟩, .plain, none, []⟩
  | typedDict => ⟨.typedDict, ⟨[], []⟩, .typedDict, none, []⟩

/-- What a class of a style is derived from directly. -/
def bases : Style → List ClassRef
  | plain | dataclass => []
  | model => [.builtin .baseModel]
  | namedTuple => [.builtin .tuple]
  | typedDict => [.builtin .dict]

theorem searchOrder_bases (cat : Catalog) (s : Style) (n : Nat) :
    cat.searchOrder ⟨.declared n, []⟩ s.bases = .ok (⟨.declared n, []⟩ :: s.ancestors) := by
  cases s <;> rfl

/-- What a class statement of a style makes known of its class, whatever the fields mean. -/
structure Outlines (s : Style) (site : Site) (head : ClassHead) (n : Nat) (info : ClassInfo) :
    Prop where
  name : info.name = Text.Compatibility.ofName head.name
  qualname : info.qualname = site.qualname info.name
  mro : info.mro = ⟨.declared n, []⟩ :: s.ancestors
  unlisted : s ≠ .dataclass → info.dataFields = none

/-- What lasts of a catalog is a class of a style more than before. -/
def Adds (s : Style) (site : Site) (head : ClassHead) (l : Catalog.Lasting) (cat : Catalog) :
    Prop :=
  ∃ info, s.Outlines site head l.outlines.length info ∧ cat.lasting = l.add info

end Style

namespace Declaring

open Style (Adds)

variable {site : Site} {head : ClassHead} {frame : ClassFrame} {body : ClassBody}
  {l : Catalog.Lasting} {s : Style}

/-! ## The body -/

/-- A field that comes with nothing but an annotation binds no name. -/
theorem ensures_runField_plain {f : FieldDecl} (hf : f.options = .plain) (hbody : body.names = []) :
    Ensures (·.lasting = l) (runField site s.form head s.frame body f)
      fun body => body.names = [] := by
  have hform : s.form ≠ .functionalTypedDict := by cases s <;> nofun
  unfold runField
  split
  · next heq => exact absurd heq hform
  · extract_lets name facts scopeOf field finish rest
    have hannotate (t : TypeExpr) : Ensures (·.lasting = l)
        (do check .body (body.annotate (← get) field t)) fun body => body.names = [] := by
      refine ensures_get.bind fun cat _ => ensures_check fun body' h => ?_
      unfold ClassBody.annotate at h
      split at h
      · exact absurd h nofun
      · exact Except.ok.inj h ▸ hbody
    have hfinish : Ensures (·.lasting = l) (finish body) fun body => body.names = [] := by
      dsimp only [finish]
      rw [hf]
      refine .ite ((keeps_pure _).then fun t => hannotate t) ?_
      exact (keeps_evaluate _ _).then fun t => hannotate t
    have hrest : rest () = finish body := by
      dsimp only [rest]
      rw [hf]
      rfl
    rw [hf]
    exact hrest ▸ hfinish

theorem ensures_runBody_plain (hfields : ∀ f ∈ head.fields, f.options = .plain) :
    Ensures (·.lasting = l) (runBody site s.form head s.frame []) fun body => body.names = [] := by
  have hnone : writtenValues s.form head = [] := by cases s <;> rfl
  unfold runBody
  rw [hnone]
  refine Ensures.bind (P := fun body => body.names = []) (.pure rfl) fun body hbody => ?_
  exact ensures_foldlM _ (fun body f hf hbody => ensures_runField_plain (hfields f hf) hbody) hbody

/-! ## The class -/

theorem ensures_nextClass :
    Ensures (·.lasting = l) nextClass fun c => c = ⟨.declared l.outlines.length, []⟩ := by
  refine ensures_get.bind fun cat hcat => .pure ?_
  rw [← hcat, Catalog.length_outlines]

/-- The next class has its names and its ancestors before it is added. -/
theorem ensures_prepareInfo_style (hbody : body.names.lookup "__qualname__" = none) :
    Ensures (·.lasting = l) (prepareInfo site s.form head frame s.bases body)
      (s.Outlines site head l.outlines.length) := by
  refine ensures_nextClass.bind fun c hc => ensures_get.bind fun cat _ => ?_
  refine (keeps_check _ _).then fun best => (keeps_check _ _).then fun slots => ?_
  extract_lets layout info finish
  have hfinish (qualname : String) (hqualname : qualname = info.qualname) :
      Ensures (·.lasting = l) (finish qualname) (s.Outlines site head l.outlines.length) := by
    have hmro : Ensures (·.lasting = l) (check .base (cat.searchOrder c s.bases))
        fun mro => mro = ⟨.declared l.outlines.length, []⟩ :: s.ancestors := by
      rw [hc, Style.searchOrder_bases]
      exact .pure rfl
    refine (keeps_check _ _).then fun _ => hmro.bind fun mro hmro => .pure ?_
    exact
      { name := by cases s <;> rfl
        qualname := by rw [hqualname]; cases s <;> rfl
        mro := hmro
        unlisted := fun _ => rfl }
  have hown : body.ownQualname cat info.qualname = .ok info.qualname := by
    rw [ClassBody.ownQualname, ClassBody.kindOf?, hbody]
    rfl
  rw [hown]
  exact Ensures.bind (P := (· = info.qualname)) (.pure rfl) hfinish

/-- A class is added that differs from what was prepared in other things. -/
theorem yields_addClass {info info' : ClassInfo} (h : s.Outlines site head l.outlines.length info)
    (hname : info'.name = info.name) (hqualname : info'.qualname = info.qualname)
    (hmro : info'.mro = info.mro) (hdata : info'.dataFields = info.dataFields) :
    Yields (·.lasting = l) (addClass info') fun _ => Adds s site head l := by
  refine yields_modify fun cat hcat => ⟨info', ?_, ?_⟩
  · exact
      { name := hname.trans h.name
        qualname := by rw [hqualname, h.qualname, hname]
        mro := hmro.trans h.mro
        unlisted := fun hs => hdata.trans (h.unlisted hs) }
  · rw [Catalog.lasting_addClass, hcat]

theorem yields_of_adds {α : Type} {a : Declaring α} {J : α → Catalog → Prop}
    (h : ∀ info, s.Outlines site head l.outlines.length info → Yields (·.lasting = l.add info) a J) :
    Yields (Adds s site head l) a J :=
  fun cat hcat => hcat.elim fun info hinfo => h info hinfo.1 cat hinfo.2

theorem yields_createPlain (hbody : body.names = []) (hs : s.frame.bases.classes = s.bases) :
    Yields (·.lasting = l) (createPlain site s.form head s.frame body)
      fun _ => Adds s site head l := by
  have hnone : body.names.lookup "__qualname__" = none := by rw [hbody]; rfl
  refine Ensures.bind_yields ensures_get fun cat _ => (keeps_check _ _).then_yields fun _ => ?_
  rw [hs]
  refine (ensures_prepareInfo_style hnone).bind_yields fun info hinfo => ?_
  exact (keeps_settleParams _ _ _).then_yields fun params => yields_addClass hinfo rfl rfl rfl rfl

/-- The readers of the fields of a named tuple are its only attributes; none of them hides its
qualified name. -/
theorem yields_createNamedTuple (hbody : body.names = []) :
    Yields (·.lasting = l) (createNamedTuple site Style.namedTuple.form head Style.namedTuple.frame
      body) fun _ => Adds .namedTuple site head l := by
  unfold createNamedTuple
  extract_lets fields readers others bases
  refine (keeps_check _ _).then_yields fun _ => .unless ?_
  refine (keeps_evaluate _ _).then_yields fun annotations => ?_
  refine (ensures_check fun _ h => h).bind_yields fun _ hnames => ?_
  have hothers : others = [] := by
    dsimp only [others]
    rw [hbody, List.filter_nil]
  have hstart : ∀ name ∈ fields.map Prod.fst, name.startsWith "_" = false := by
    unfold Catalog.checkTupleNames at hnames
    split at hnames
    · exact absurd hnames nofun
    · exact absurd hnames nofun
    · next hnone _ => exact fun name hname => by simpa using List.find?_eq_none.mp hnone name hname
  have hnone : (readers ++ others).lookup "__qualname__" = none := by
    rw [hothers, List.append_nil, List.lookup_eq_none_iff]
    intro p hp
    obtain ⟨⟨⟨name, hasDefault⟩, i⟩, hfield, rfl⟩ := List.mem_map.mp hp
    have hname := List.mem_map_of_mem (f := Prod.fst) (List.fst_mem_of_mem_zipIdx hfield)
    rw [bne_iff_ne]
    rintro rfl
    exact absurd (hstart _ hname) (by simp)
  refine (ensures_prepareInfo_style (s := .namedTuple) hnone).bind_yields fun info hinfo => ?_
  exact (keeps_settleParams _ _ _).then_yields fun params => yields_addClass hinfo rfl rfl rfl rfl

theorem yields_createTypedDict (hbody : body.names = []) :
    Yields (·.lasting = l) (createTypedDict site Style.typedDict.form head Style.typedDict.frame body)
      fun _ => Adds .typedDict site head l := by
  have hnone : body.names.lookup "__qualname__" = none := by rw [hbody]; rfl
  refine Ensures.bind_yields ensures_get fun cat _ => .unless ?_
  refine (ensures_prepareInfo_style (s := .typedDict) hnone).bind_yields fun info hinfo => ?_
  refine (keeps_settleParams _ _ _).then_yields fun params => ?_
  refine (keeps_evaluate _ _).then_yields fun _ => (keeps_evaluate _ _).then_yields fun own => ?_
  exact yields_addClass hinfo rfl rfl rfl rfl

/-- A model is added before its annotations are looked at, and its fields are set afterwards. -/
theorem yields_createModel (hbody : body.names = []) :
    Yields (·.lasting = l) (createModel site Style.model.form head Style.model.frame body)
      fun _ => Adds .model site head l := by
  refine (keeps_checkModelBody _ _ _ _ _).then_yields fun _ => ?_
  refine Ensures.bind_yields ensures_get fun cat _ => ?_
  rw [hbody]
  refine (ensures_prepareInfo_style (s := .model) rfl).bind_yields fun info hinfo => ?_
  refine (keeps_settleParams _ _ _).then_yields fun own => ?_
  refine (keeps_modelVariables _ _ _ _).then_yields fun params => ?_
  refine Ensures.bind_yields ensures_get fun cat _ => ?_
  refine ensures_nextClass.bind_yields fun c hc => ?_
  refine Yields.bind (J := fun _ => Adds .model site head l) (yields_addClass hinfo ?_ ?_ ?_ ?_)
    fun _ => yields_of_adds fun info hinfo => ?_
  · rfl
  · rfl
  · rfl
  · rfl
  refine (keeps_evaluate _ _).then_yields fun annotations => ?_
  refine Ensures.bind_yields ensures_get fun cat _ => ?_
  refine (keeps_check _ _).then_yields fun _ => (keeps_check _ _).then_yields fun inherited => ?_
  refine yields_modify fun cat hcat => ?_
  rw [hc]
  refine ⟨_, ?_, Catalog.lasting_updateInfo_last (fun i => ?_)
    ((Catalog.lasting_setFields _ _).trans hcat)⟩
  · exact ⟨hinfo.name, hinfo.qualname, hinfo.mro, hinfo.unlisted⟩
  · rfl

theorem yields_decorate_dataclass {options : List (String × FieldOptions)} {t : TypeExpr} :
    Yields (Adds .dataclass site head l)
      (decorate ⟨.declared l.outlines.length, []⟩ options t .dataclass)
      fun _ => Adds .dataclass site head l := by
  refine yields_of_adds fun info hinfo => Ensures.bind_yields ensures_get fun cat _ => ?_
  refine (keeps_check _ _).then_yields fun fields => ?_
  refine Yields.bind (J := fun _ => Adds .dataclass site head l) (yields_modify fun cat hcat => ?_)
    fun _ => yields_pure fun _ hcat => hcat
  refine ⟨_, ?_, Catalog.lasting_updateInfo_last (fun i => ?_) hcat⟩
  · exact ⟨hinfo.name, hinfo.qualname, hinfo.mro, fun hs => absurd rfl hs⟩
  · rfl

/-- A class statement of a style adds a class of that style, and nothing else that lasts. -/
theorem yields_closeClass (hfields : ∀ f ∈ head.fields, f.options = .plain) :
    Yields (·.lasting = l) (closeClass site s.form head s.frame [])
      fun result cat => result.1 = ⟨.declared l.outlines.length, []⟩ ∧ Adds s site head l cat := by
  refine (ensures_runBody_plain hfields).bind_yields fun body hbody => ?_
  refine ensures_nextClass.bind_yields fun c hc => ?_
  subst hc
  cases s with
  | plain =>
      refine (yields_createPlain (s := .plain) hbody rfl).bind fun _ => ?_
      exact yields_pure fun cat hcat => ⟨rfl, hcat⟩
  | dataclass =>
      refine (yields_createPlain (s := .dataclass) hbody rfl).bind fun _ => ?_
      refine Yields.bind (J := fun _ => Adds .dataclass site head l) ?_ fun t => ?_
      · exact yields_decorate_dataclass.bind fun t => yields_pure fun cat hcat => hcat
      · exact yields_pure fun cat hcat => ⟨rfl, hcat⟩
  | model =>
      refine (yields_createModel hbody).bind fun _ => ?_
      exact yields_pure fun cat hcat => ⟨rfl, hcat⟩
  | namedTuple =>
      refine (yields_createNamedTuple hbody).bind fun _ => ?_
      exact yields_pure fun cat hcat => ⟨rfl, hcat⟩
  | typedDict =>
      refine (yields_createTypedDict hbody).bind fun _ => ?_
      exact yields_pure fun cat hcat => ⟨rfl, hcat⟩

end Declaring

end TypeSchema
