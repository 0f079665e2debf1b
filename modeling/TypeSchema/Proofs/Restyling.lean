import TypeSchema.Node.Equality
import TypeSchema.Proofs.Annotations
import TypeSchema.Proofs.Declaration.Order
import TypeSchema.Proofs.Declaration.Styles
/-!
# Programs that differ in a style

A class statement that names no bases may be given in any style. Two programs that differ in the style
of such a statement differ in one class alone (`Style.Runs.restyled`). Where both read the same types
from its annotations, they make the same schemas and fail alike (`build_eq_of_styles`).

They need not read the same. A model looks a name that stands in quotes up when it is created, and
finds itself first; the other styles look it up later, in the module (`build_ne_of_styles`).
-/

namespace TypeSchema

/-! ## Programs with the statement -/

/-- A class statement that gives fields their names and annotations, and says nothing else of them or
of the names of the class. -/
structure ClassHead.IsBare (head : ClassHead) : Prop where
  fields : ∀ f ∈ head.fields, f.options = .plain
  newModule : head.newModule = none
  newQualname : head.newQualname = none

/-- After a class statement of a style a program knows what it knows in the second catalog. What is
written in the head of the statement means what it does where no name of the library is bound to
anything else. The program may have gone on, as long as it changed nothing that lasts. -/
structure Style.Runs (s : Style) (site : Site) (head : ClassHead) (cat cat' : Catalog) : Prop where
  frame : ((Declaring.openClass (site.inModule head.module) s.form head).run.run
    ((Declaring.ensureModule (site.inModule head.module).module).run.run cat).2).1 = .ok s.frame
  done : ∃ names between,
    (Declaring.declareAt site (.cls s.form head [])).run.run cat = (.ok names, between) ∧
      cat'.lasting = between.lasting

namespace Style.Runs

variable {s s' : Style} {site : Site} {head : ClassHead} {cat cat₁ cat₂ : Catalog}

open Declaring in
/-- The statement adds a class of its style. -/
theorem adds (h : s.Runs site head cat cat₁) (hbare : head.IsBare) :
    s.Adds (site.inModule head.module) head cat.lasting cat₁ := by
  let inside := site.inModule head.module
  let opened := ((ensureModule inside.module).run.run cat).2
  have hensure : Yields (· = cat) (ensureModule inside.module) fun _ => (· = opened) := by
    rintro _ rfl _ _ hrun
    exact (congrArg Prod.snd hrun).symm
  have hopen : Yields (· = opened) (openClass inside s.form head)
      fun frame cat' => frame = s.frame ∧ cat'.lasting = cat.lasting := by
    rintro _ rfl frame cat' hrun
    have hkept : Keeps (·.lasting = cat.lasting) (ensureModule inside.module) :=
      keeps_ensureModule inside.module
    have hkept' : Keeps (·.lasting = cat.lasting) (openClass inside s.form head) :=
      keeps_openClass inside s.form head
    have hlasting := (hkept' opened (hkept cat rfl).1).1
    rw [hrun] at hlasting
    have hframe : ((openClass inside s.form head).run.run opened).1 = .ok s.frame := h.frame
    rw [hrun] at hframe
    exact ⟨Except.ok.inj hframe, hlasting⟩
  have hclose (frame : ClassFrame) : Yields
      (fun cat' => frame = s.frame ∧ cat'.lasting = cat.lasting)
      (closeClass inside s.form head frame []) fun _ => s.Adds inside head cat.lasting := by
    rintro cat' ⟨rfl, hlasting⟩ result cat'' hrun
    exact (yields_closeClass hbare.fields cat' hlasting result cat'' hrun).2
  have hrename (c : ClassRef) : renameClass head c = pure () := by
    unfold renameClass
    rw [hbare.newModule, hbare.newQualname]
  -- The body is empty, so that the class is closed as soon as it is open.
  have hdeclare : Yields (· = cat) (declareAt site (.cls s.form head []))
      fun _ => s.Adds inside head cat.lasting := by
    rw [declareAt]
    refine hensure.bind fun _ => hopen.bind fun frame => ?_
    simp only [declareAllAt, pure_bind]
    refine Yields.bind (J := fun _ => s.Adds inside head cat.lasting) (hclose frame) fun closed => ?_
    rw [hrename]
    exact yields_pure fun cat' hadds => hadds
  obtain ⟨names, between, hrun, hkept⟩ := h.done
  obtain ⟨info, hinfo, hlasting⟩ := hdeclare cat rfl names between hrun
  exact ⟨info, hinfo, hkept.trans hlasting⟩

open Declaring in
/-- A statement at the top of a module, whose name is bound then. -/
theorem of_declare (hframe : ((openClass (Site.top.inModule head.module) s.form head).run.run
      ((ensureModule (Site.top.inModule head.module).module).run.run cat).2).1 = .ok s.frame)
    (h : cat.declare (.cls s.form head []) = (.ok (), cat₁)) : s.Runs .top head cat cat₁ := by
  refine ⟨hframe, ?_⟩
  have hrun : (declareAt .top (.cls s.form head []) >>= fun names =>
      modify fun cat => names.foldl (fun cat p => cat.bind p.1 p.2) cat).run.run cat =
        (.ok (), cat₁) := h
  rw [run_bind] at hrun
  rcases hfirst : (declareAt .top (.cls s.form head [])).run.run cat with ⟨_ | names, between⟩ <;>
    rw [hfirst] at hrun
  · exact absurd (congrArg Prod.fst hrun) nofun
  · refine ⟨names, between, rfl, ?_⟩
    -- Binding names changes nothing that lasts.
    obtain ⟨-, rfl⟩ := Prod.mk.inj hrun
    clear hrun hfirst h
    induction names generalizing between with
    | nil => rfl
    | cons p names ih => exact ih (between.bind p.1 p.2)

/-- The class is the next one, and what its style makes of the statement. -/
theorem exists_outline (h : s.Runs site head cat cat₁) (hbare : head.IsBare) :
    ∃ info, s.Outlines (site.inModule head.module) head cat.classes.length info ∧
      (cat₁.info (.declared cat.classes.length)).outline = info.outline := by
  obtain ⟨info, hinfo, hlasting⟩ := h.adds hbare
  have houtline := Catalog.outline_info_last hlasting
  rw [Catalog.length_outlines] at hinfo houtline
  exact ⟨info, hinfo, houtline⟩

/-- The class is derived from the ancestors of its style, and lists what it is found to list. -/
theorem declares {members : List (String × TypeExpr)} (h : s.Runs site head cat cat₁)
    (hbare : head.IsBare) (hlists : s.Lists cat₁ ⟨.declared cat.classes.length, []⟩ members) :
    s.Declares cat₁ cat.classes.length members := by
  obtain ⟨info, hinfo, houtline⟩ := h.exists_outline hbare
  exact
    { mro := (congrArg ClassInfo.mro houtline).trans hinfo.mro
      unlisted := fun hs => (congrArg ClassInfo.dataFields houtline).trans (hinfo.unlisted hs)
      lists := hlists }

/-- The class has the names that its statement gives it. -/
theorem names (h : s.Runs site head cat cat₁) (hbare : head.IsBare) :
    (cat₁.info (.declared cat.classes.length)).name = Text.Compatibility.ofName head.name ∧
      (cat₁.info (.declared cat.classes.length)).qualname =
        (site.inModule head.module).qualname (Text.Compatibility.ofName head.name) := by
  obtain ⟨info, hinfo, houtline⟩ := h.exists_outline hbare
  have hname : (cat₁.info (.declared cat.classes.length)).name = info.name :=
    (congrArg ClassInfo.name houtline :)
  have hqualname : (cat₁.info (.declared cat.classes.length)).qualname = info.qualname :=
    (congrArg ClassInfo.qualname houtline :)
  exact ⟨hname.trans hinfo.name, by rw [hqualname, hinfo.qualname, hinfo.name]⟩

/-- The statement of another style adds another class under the same names, and leaves the rest of the
program the same. -/
theorem restyled (hlinear : cat.Linear) (hbare : head.IsBare) (h : s.Runs site head cat cat₁)
    (h' : s'.Runs site head cat cat₂) (hmodule : ∀ c, cat₁.moduleOf c = cat₂.moduleOf c) :
    Restyled cat.classes.length cat₁ cat₂ := by
  have hsame {s : Style} {cat' : Catalog} (h : s.Runs site head cat cat') {id : ClassId}
      (hid : id ≠ .declared cat.classes.length) :
      (cat'.info id).outline = (cat.info id).outline := by
    obtain ⟨info, -, hlasting⟩ := h.adds hbare
    exact Catalog.outline_info_of_add rfl hlasting (by rwa [Catalog.length_outlines])
  have hdescriptions {s : Style} {cat' : Catalog} (h : s.Runs site head cat cat') :
      cat'.descriptions = cat.descriptions := by
    obtain ⟨info, -, hlasting⟩ := h.adds hbare
    exact congrArg Catalog.Lasting.descriptions hlasting
  refine { outline := fun hid => (hsame h hid).trans (hsame h' hid).symm
           underived := fun {id} hid d hd heq => ?_
           module := hmodule
           descriptions := (hdescriptions h).trans (hdescriptions h').symm
           name := (h.names hbare).1.trans (h'.names hbare).1.symm
           qualname := (h.names hbare).2.trans (h'.names hbare).2.symm }
  have hmro : (cat₁.info id).mro = (cat.info id).mro := (congrArg ClassInfo.mro (hsame h hid) :)
  have hbefore := hlinear.isBefore_next (hmro ▸ hd)
  rw [heq] at hbefore
  exact Nat.lt_irrefl _ hbefore

end Style.Runs

namespace Catalog

/-- A class may be declared in any style. Where two statements of different styles list members of
the same types, and the other classes list the same, the schema of every type is the same, or fails
with the same message about the same field of the same class. -/
theorem build_eq_of_styles {cat cat₁ cat₂ : Catalog} {site : Site} {head : ClassHead}
    {s s' : Style} {members : List (String × TypeExpr)} (hcat : cat.Declared)
    (hgrounded : cat.Grounded) (hbare : head.IsBare)
    (h : s.Runs site head cat cat₁) (h' : s'.Runs site head cat cat₂)
    (hlists : s.Lists cat₁ ⟨.declared cat.classes.length, []⟩ members)
    (hlists' : s'.Lists cat₂ ⟨.declared cat.classes.length, []⟩ members)
    (hnodup : (members.map Prod.fst).Nodup) (hnames : ∀ m ∈ members, m.1.startsWith "__" = false)
    (htypes : ∀ m ∈ members, m.2.IsFieldType)
    (hmodule : ∀ c, cat₁.moduleOf c = cat₂.moduleOf c) {t : TypeExpr}
    (ht : t.hasInstanceOf (.declared cat.classes.length) = false)
    (hothers : ∀ c, Reaches cat₁ t c → c ≠ ⟨.declared cat.classes.length, []⟩ →
      cat₁.fieldsOf c = cat₂.fieldsOf c)
    (hfields : ∀ c fields, Reaches cat₁ t c → cat₁.fieldsOf c = .ok fields →
      ∀ f ∈ fields, f.type.hasInstanceOf (.declared cat.classes.length) = false) (limit : Int) :
    cat₁.build limit t = cat₂.build limit t ∧ ∀ e, cat₁.build limit t = .error e →
      cat₁.errorMessage e = cat₂.errorMessage e ∧ ∀ cause place, e = .unresolvable cause place →
        place.owner.map cat₁.ownerName = place.owner.map cat₂.ownerName :=
  have hrestyled := Style.Runs.restyled (hcat.linear hgrounded) hbare h h' hmodule
  build_eq_of_restyled hrestyled (h.declares hbare hlists) (h'.declares hbare hlists') hnodup hnames
    htypes ht hothers hfields limit

end Catalog

/-! ## Two statements in several styles -/

namespace Catalog

deriving instance DecidableEq for Bases, Decorator, ClassFrame

/-- A class statement of persons, whose age is described at two layers. -/
def personHead : ClassHead :=
  let described (t : Expression) (text : String) : Expression :=
    .subscript (.path ["typing", "Annotated"])
      [t, .call (.name "Description") [.constant (.string text)]]
  let years := described (.name "int") "full years"
  { ClassHead.ofName "Person" none with
    fields := [⟨"name", .name "str", .plain⟩,
      ⟨"age", described (.subscript (.path ["typing", "Optional"]) [years]) "age of a person",
        .plain⟩] }

/-- What the annotations of persons mean. -/
def personMembers : List (String × TypeExpr) :=
  let years : TypeExpr := .annotated (.builtin .int) [.description 0 "full years"]
  [("name", .builtin .str),
   ("age", .annotated (.union .named [years, .noneType]) [.description 1 "age of a person"])]

/-- The program that declares persons in a style, and nothing else. -/
def people (s : Style) : Catalog := (empty.declare (.cls s.form personHead [])).2

theorem eq_ok_of_toOption {ε α : Type} {x : Except ε α} {a : α} (h : x.toOption = some a) :
    x = .ok a := by
  cases x with
  | error e => exact absurd h nofun
  | ok b => exact congrArg Except.ok (Option.some.inj h)

theorem runs_people {s : Style} (hs : s = .dataclass ∨ s = .model) :
    s.Runs .top personHead .empty (people s) := by
  have hok : (empty.declare (.cls s.form personHead [])).1 = .ok () :=
    eq_ok_of_toOption (by rcases hs with rfl | rfl <;> decide +kernel)
  refine .of_declare (eq_ok_of_toOption ?_) (Prod.ext hok rfl)
  rcases hs with rfl | rfl <;> decide +kernel

theorem lists_people_dataclass :
    Style.dataclass.Lists (people .dataclass) (.declared 0) personMembers where
  unregistered := by decide +kernel
  listed := by
    have hhints : (people .dataclass).hints (.declared 0) = .ok personMembers :=
      eq_ok_of_toOption (by decide +kernel)
    have hfields : ((people .dataclass).info (.declared 0)).dataFields.any
        (fun fields => decide (List.Forall₂ DataField.IsOf personMembers fields)) = true := by
      decide +kernel
    obtain ⟨fields, hdata, hall⟩ := (Option.any_eq_true _ _).mp hfields
    exact ⟨hhints, fields, hdata, of_decide_eq_true hall⟩

theorem lists_people_model : Style.model.Lists (people .model) (.declared 0) personMembers where
  unregistered := by decide +kernel
  listed := by
    have hfields : ((people .model).info (.declared 0)).model.any
        (fun m => decide (List.Forall₂ ModelField.IsOf personMembers m.fields)) = true := by
      decide +kernel
    obtain ⟨m, hm, hall⟩ := (Option.any_eq_true _ _).mp hfields
    exact ⟨m, hm, of_decide_eq_true hall⟩

/-- Whether a type is compiled to a node without parts. -/
def isLeafType (cat : Catalog) (t : TypeExpr) : Bool :=
  match cat.form t none with
  | .ok (.scalar _) => true
  | _ => false

theorem not_leads_of_isLeafType {cat : Catalog} {t : TypeExpr} {c : ClassRef}
    (h : isLeafType cat t = true) : ¬Leads cat t c := by
  unfold isLeafType at h
  split at h
  · next hform => exact Leads.not_of_scalar hform
  · exact absurd h nofun

/-- The fields of persons lead to no class, and show no instance of one. -/
theorem fields_people : ∃ fields, (people .dataclass).fieldsOf (.declared 0) = .ok fields ∧
    ∀ f ∈ fields, isLeafType (people .dataclass) f.type = true ∧
      f.type.hasInstanceOf (.declared 0) = false := by
  obtain ⟨fields, hfields, hall⟩ := exists_ok
    (x := (people .dataclass).fieldsOf (.declared 0))
    (p := fun fields => decide (∀ f ∈ fields, isLeafType (people .dataclass) f.type = true ∧
      f.type.hasInstanceOf (.declared 0) = false)) (by decide +kernel)
  exact ⟨fields, hfields, of_decide_eq_true hall⟩

/-- Persons reach no other class. -/
theorem eq_of_reaches_people {c : ClassRef}
    (h : Reaches (people .dataclass) (ClassRef.declared 0).toExpr c) : c = .declared 0 := by
  obtain ⟨fields, hfields, hall⟩ := fields_people
  obtain ⟨r, hleads, hpath⟩ := h
  have hkind : (people .dataclass).kindOf (.declared 0) = .object := by decide +kernel
  obtain rfl := (Leads.iff_of_object (d := none) (form_declared hkind)).mp hleads
  induction hpath with
  | refl => rfl
  | tail _ hedge ih =>
      subst ih
      obtain ⟨fields', hfields', f, hf, hleads'⟩ := hedge
      obtain rfl := Except.ok.inj (hfields.symm.trans hfields')
      exact absurd hleads' (not_leads_of_isLeafType (hall f hf).1)

/-- Two programs with one class, and without generic models, name the same modules if the class
does. -/
theorem moduleOf_eq_of_one {cat cat' : Catalog} (h : cat.instances = []) (h' : cat'.instances = [])
    (hlength : cat.classes.length = 1) (hlength' : cat'.classes.length = 1)
    (hmodule : (cat.info (.declared 0)).module = (cat'.info (.declared 0)).module) (c : ClassRef) :
    cat.moduleOf c = cat'.moduleOf c := by
  have hnone (cat : Catalog) (h : cat.instances = []) :
      cat.moduleOf c = (cat.info c.id).module := by
    rw [moduleOf, h]
    rfl
  rw [hnone cat h, hnone cat' h']
  obtain ⟨b | i, args⟩ := c
  · rfl
  · rcases Nat.eq_zero_or_pos i with rfl | hi
    · exact hmodule
    · dsimp only [info]
      rw [List.getD_eq_default _ _ (hlength ▸ hi), List.getD_eq_default _ _ (hlength' ▸ hi)]

theorem isFieldType_personMembers : ∀ m ∈ personMembers, m.2.IsFieldType := by
  intro m hm
  rcases List.mem_cons.mp hm with rfl | hm
  · exact ⟨rfl, nofun⟩
  · obtain rfl := List.mem_singleton.mp hm
    exact ⟨rfl, nofun⟩

/-- A dataclass and a model of persons have one schema, in which the outer description of the age is
that of the property. -/
theorem build_eq_of_styles_people :
    ∃ n, (people .dataclass).build 8 (ClassRef.declared 0).toExpr = .ok n ∧
      (people .model).build 8 (ClassRef.declared 0).toExpr = .ok n ∧
      n.same (.object [("name", .leaf .string none),
        ("age", .leaf .integer (some (.string "age of a person")))] (some ["name", "age"])
        none none) = true := by
  obtain ⟨n, hn, hnode⟩ : ∃ n,
      (people .dataclass).build 8 (ClassRef.declared 0).toExpr = .ok n ∧
      n.same (.object [("name", .leaf .string none),
        ("age", .leaf .integer (some (.string "age of a person")))] (some ["name", "age"])
        none none) = true := exists_build (by decide +kernel)
  have hbare : personHead.IsBare := ⟨by simp [personHead], rfl, rfl⟩
  have hmodule : ∀ c, (people .dataclass).moduleOf c = (people .model).moduleOf c :=
    moduleOf_eq_of_one (List.isEmpty_iff.mp (by decide +kernel))
      (List.isEmpty_iff.mp (by decide +kernel)) (by decide +kernel) (by decide +kernel)
      (by decide +kernel)
  have hothers : ∀ c, Reaches (people .dataclass) (ClassRef.declared 0).toExpr c →
      c ≠ .declared 0 → (people .dataclass).fieldsOf c = (people .model).fieldsOf c :=
    fun c hc hne => absurd (eq_of_reaches_people hc) hne
  have hfields : ∀ c fields, Reaches (people .dataclass) (ClassRef.declared 0).toExpr c →
      (people .dataclass).fieldsOf c = .ok fields →
      ∀ f ∈ fields, f.type.hasInstanceOf (.declared 0) = false := by
    intro c fields hc hfields
    obtain rfl := eq_of_reaches_people hc
    obtain ⟨fields', hfields', hall⟩ := fields_people
    obtain rfl := Except.ok.inj (hfields'.symm.trans hfields)
    exact fun f hf => (hall f hf).2
  have hsame := (build_eq_of_styles .empty (by decide +kernel) hbare (runs_people (.inl rfl))
    (runs_people (.inr rfl)) lists_people_dataclass lists_people_model (by decide +kernel)
    (by decide +kernel) isFieldType_personMembers hmodule rfl hothers hfields 8).1
  exact ⟨n, hn, hsame ▸ hn, hnode⟩

/-- A program with a part, and a machine in whose body another part is declared in a style: the part
inside it is given by its name. -/
def machines (s : Style) : Catalog :=
  let part := (empty.declare (.cls .plain { ClassHead.ofName "Part" none with
    fields := [⟨"size", .name "int", .plain⟩] } [])).2
  (part.declare (.cls .plain (ClassHead.ofName "Machine" none)
    [.cls s.form { ClassHead.ofName "Part" none with
      fields := [⟨"inner", .constant (.string "Part"), .plain⟩] } []])).2

/-- In a dataclass the name means the part at the top of the module, in a model the part that is being
declared: the one has a schema without definitions, the other refers to itself. -/
theorem build_ne_of_styles :
    (machines .dataclass).Declared ∧ (machines .model).Declared ∧
    ((machines .dataclass).info (.declared 1)).qualname = "Machine.Part" ∧
    ((machines .model).info (.declared 1)).qualname = "Machine.Part" ∧
    (machines .dataclass).moduleOf (.declared 1) = (machines .model).moduleOf (.declared 1) ∧
    ∃ n n', (machines .dataclass).build 8 (ClassRef.declared 1).toExpr = .ok n ∧
      (machines .model).build 8 (ClassRef.declared 1).toExpr = .ok n' ∧
      n.definitions.length = 0 ∧ n'.definitions.length = 1 ∧ n ≠ n' := by
  obtain ⟨n, hn, hlength⟩ : ∃ n,
      (machines .dataclass).build 8 (ClassRef.declared 1).toExpr = .ok n ∧
      (n.definitions.length == 0) = true := exists_build (by decide +kernel)
  obtain ⟨n', hn', hlength'⟩ : ∃ n,
      (machines .model).build 8 (ClassRef.declared 1).toExpr = .ok n ∧
      (n.definitions.length == 1) = true := exists_build (by decide +kernel)
  have hnone : n.definitions.length = 0 := beq_iff_eq.mp hlength
  have hone : n'.definitions.length = 1 := beq_iff_eq.mp hlength'
  refine ⟨.declare _ (.declare _ .empty), .declare _ (.declare _ .empty), by decide +kernel,
    by decide +kernel, by decide +kernel, n, n', hn, hn', hnone, hone, ?_⟩
  rintro rfl
  exact absurd (hnone.symm.trans hone) (by decide)

end Catalog

end TypeSchema
