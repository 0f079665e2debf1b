import TypeSchema.Proofs.Compile.Agreement
import TypeSchema.Proofs.Compile.Shown
import TypeSchema.Proofs.Declaration.Lasting
/-!
# Styles of classes

A class with annotated fields may be declared in five styles. They keep their fields in three ways: a
model sets aside what is attached to an annotation, a dataclass has a list of its fields, and the
others have their annotations alone. The compiler sees no difference. Where the annotations mean the
same, it makes the same schema of every type in two programs that differ in the style of one class,
or it fails in both with the same message about the same field (`Catalog.build_eq_of_restyled`).

The reason is that what is attached to an annotation is unwrapped from the outside in: the outermost
layer may be told apart before (`TypeExpr.form_bare`).
-/

namespace TypeSchema

/-! ## Annotations of fields -/

namespace TypeExpr

/-- An annotation without what its outermost layer attaches. -/
def bare : TypeExpr → TypeExpr
  | .annotated inner _ => inner
  | t => t

/-- What the outermost layer of an annotation attaches. -/
def attached : TypeExpr → List TypeExpr
  | .annotated _ metadata => metadata
  | _ => []

/-- Whether an annotation says of its field that it is final, required or not, a variable of the
class or an argument of its initialiser. -/
def qualifies : TypeExpr → Bool
  | .form f | .subscript (.form f) _ => [.final, .classVar, .required, .notRequired].contains f
  | .cls id args => id = .builtin .initVar ∧ args = []
  | .initVar _ _ => true
  | _ => false

/-- An annotation that gives its field a type, and attaches all that it attaches to it at once. -/
structure IsFieldType (t : TypeExpr) : Prop where
  unqualified : t.bare.qualifies = false
  flat (inner : TypeExpr) (metadata : List TypeExpr) : t.bare ≠ .annotated inner metadata

variable {t : TypeExpr}

theorem inspect_of_not_qualifies (h : t.qualifies = false)
    (hflat : ∀ inner metadata, t ≠ .annotated inner metadata) : t.inspect = ⟨t, [], []⟩ := by
  unfold inspect
  split <;> simp_all [qualifies]

theorem IsFieldType.inspect_eq (h : t.IsFieldType) : t.inspect = ⟨t.bare, t.attached, []⟩ := by
  cases t with
  | annotated inner metadata =>
      have hinner : inner.inspect = ⟨inner, [], []⟩ :=
        inspect_of_not_qualifies h.unqualified h.flat
      rw [inspect, hinner]
      rfl
  | _ => exact inspect_of_not_qualifies h.unqualified h.flat

theorem IsFieldType.isStored (h : t.IsFieldType) {name : String}
    (hname : name.startsWith "__" = false) : Catalog.isStored name t = true := by
  have hbare := h.unqualified
  unfold Catalog.isStored
  rw [hname, Bool.not_false, Bool.true_and]
  cases t with
  | annotated inner metadata | cls id args | form f | subscript head args =>
      dsimp only
      split <;> simp_all [qualifies, bare]
  | initVar n inner => exact absurd hbare (by simp [bare, qualifies])
  | _ => rfl

/-- What the outermost layer attaches may be told apart from the type, and given with it. -/
theorem form_bare (cat : Catalog) (t : TypeExpr) :
    cat.form t none = cat.form t.bare ((firstDescription? t.attached).map .string) := by
  cases t with
  | annotated inner metadata =>
      unfold Catalog.form
      rw [unwrap_annotated, bare, attached]
      cases inner.unwrap with
      | error cause => rfl
      | ok unwrapped =>
          obtain ⟨core, text⟩ := unwrapped
          dsimp only [Except.map]
          cases firstDescription? metadata <;> rfl
  | _ => rfl

end TypeExpr

/-! ## Styles -/

/-- The styles in which a class with annotated fields is declared. -/
inductive Style where
  | plain | dataclass | model | namedTuple | typedDict
  deriving DecidableEq, Repr, Inhabited

/-- What a class of a style is derived from when it names no bases, in search order. -/
def Style.ancestors : Style → List ClassRef
  | plain | dataclass => [.builtin .object]
  | model => [.builtin .baseModel, .builtin .object]
  | namedTuple => [.builtin .tuple, .builtin .object]
  | typedDict => [.builtin .dict, .builtin .object]

/-- The field of a dataclass that a member becomes is stored. -/
structure DataField.IsOf (member : String × TypeExpr) (f : DataField) : Prop where
  name : f.name = member.1
  role : f.role = .stored
  description : f.description = none

instance (member : String × TypeExpr) (f : DataField) : Decidable (f.IsOf member) :=
  decidable_of_iff (f.name = member.1 ∧ f.role = .stored ∧ f.description = none)
    ⟨fun ⟨hname, hrole, hdescription⟩ => ⟨hname, hrole, hdescription⟩,
      fun h => ⟨h.name, h.role, h.description⟩⟩

/-- The field of a model that a member becomes: what its annotation attaches is set aside. -/
structure ModelField.IsOf (member : String × TypeExpr) (f : ModelField) : Prop where
  name : f.name = member.1
  type : f.type = member.2.inspect.type
  metadata : f.metadata = member.2.inspect.metadata
  publishedAs : f.publishedAs = none
  description : f.description = none

instance (member : String × TypeExpr) (f : ModelField) : Decidable (f.IsOf member) :=
  decidable_of_iff (f.name = member.1 ∧ f.type = member.2.inspect.type ∧
      f.metadata = member.2.inspect.metadata ∧ f.publishedAs = none ∧ f.description = none)
    ⟨fun ⟨hname, htype, hmetadata, halias, hdescription⟩ =>
        ⟨hname, htype, hmetadata, halias, hdescription⟩,
      fun h => ⟨h.name, h.type, h.metadata, h.publishedAs, h.description⟩⟩

/-- What is listed of a class of a style, for which no field list is registered: the names of its
members and what their annotations mean. -/
structure Style.Lists (s : Style) (cat : Catalog) (c : ClassRef)
    (members : List (String × TypeExpr)) : Prop where
  unregistered : cat.registered? c = none
  listed :
    match s with
    | .model => ∃ m, (cat.info c.id).model = some m ∧ List.Forall₂ ModelField.IsOf members m.fields
    | .dataclass => cat.hints c = .ok members ∧ ∃ fields, (cat.info c.id).dataFields = some fields ∧
        List.Forall₂ DataField.IsOf members fields
    | .plain | .namedTuple | .typedDict => cat.hints c = .ok members

/-- What a catalog knows of a class of a style: its ancestors are those of the style, and some members
are listed. -/
structure Style.Declares (s : Style) (cat : Catalog) (n : Nat)
    (members : List (String × TypeExpr)) : Prop where
  mro : (cat.info (.declared n)).mro = ⟨.declared n, []⟩ :: s.ancestors
  unlisted : s ≠ .dataclass → (cat.info (.declared n)).dataFields = none
  lists : s.Lists cat ⟨.declared n, []⟩ members

namespace Style.Declares

variable {s : Style} {cat : Catalog} {n : Nat} {members : List (String × TypeExpr)}

/-- The class, also at arguments, is derived from nothing but the ancestors of its style. -/
theorem derives (h : s.Declares cat n members) {c : ClassRef} (hc : c.id = .declared n)
    (b : Builtin) : cat.derives c b = s.ancestors.contains (.builtin b) := by
  obtain ⟨id, args⟩ := c
  obtain rfl : id = .declared n := hc
  unfold Catalog.derives Catalog.mro
  dsimp only
  rw [h.mro]
  cases args <;> simp [ClassRef.builtin]

theorem isEnumeration (h : s.Declares cat n members) {c : ClassRef} (hc : c.id = .declared n) :
    cat.isEnumeration c = false := by
  rw [Catalog.isEnumeration, h.derives hc]
  cases s <;> rfl

theorem kindOf (h : s.Declares cat n members) {c : ClassRef} (hc : c.id = .declared n) :
    cat.kindOf c = .object := by
  have hne : ∀ b, c ≠ .builtin b := by
    rintro b rfl
    exact absurd hc (by simp [ClassRef.builtin])
  have hderives : cat.derives c = fun b => s.ancestors.contains (.builtin b) :=
    funext (h.derives hc)
  simp only [Catalog.kindOf, Catalog.isString, Catalog.isInteger, Catalog.isNumber,
    Catalog.isBoolean, Catalog.isFixedArray, Catalog.isCollection, Catalog.derivesAny,
    h.isEnumeration hc, hderives, hne]
  cases s <;> rfl

theorem mro_self (h : s.Declares cat n members) :
    cat.mro ⟨.declared n, []⟩ = ⟨.declared n, []⟩ :: s.ancestors := by
  rw [Catalog.mro, h.mro]
  rfl

theorem dataclassFields? (h : s.Declares cat n members) :
    cat.dataclassFields? ⟨.declared n, []⟩ = (cat.info (.declared n)).dataFields := by
  rw [Catalog.dataclassFields?, h.mro_self, List.findSome?_cons]
  cases (cat.info (.declared n)).dataFields with
  | some fields => rfl
  | none => cases s <;> rfl

theorem isModel (h : s.Declares cat n members) :
    cat.isModel ⟨.declared n, []⟩ = decide (s = .model) := by
  rw [Catalog.isModel, h.derives rfl]
  cases s <;> rfl

end Style.Declares

/-- A member of a class as a data member, with all that its annotation says. -/
def SchemaField.ofMember (member : String × TypeExpr) : SchemaField :=
  ⟨member.1, member.2, none⟩

/-- The field of a model is compiled like its annotation. -/
theorem ModelField.IsOf.alike {member : String × TypeExpr} {f : ModelField} (h : IsOf member f)
    (ht : member.2.IsFieldType) (cat : Catalog) :
    (Catalog.ofModelField f).Alike cat (.ofMember member) where
  name := by
    rw [Catalog.ofModelField, h.publishedAs]
    exact h.name
  form := by
    simp only [Catalog.ofModelField, SchemaField.ofMember, h.description, h.type, h.metadata,
      ht.inspect_eq]
    exact (TypeExpr.form_bare cat member.2).symm

namespace Style.Declares

variable {s : Style} {cat : Catalog} {n : Nat} {members : List (String × TypeExpr)}

/-- The data members are compiled like the members of the class, one by one. -/
def ListedAs (cat : Catalog) (n : Nat) (members : List (String × TypeExpr)) : Prop :=
  ∃ fields, cat.fieldsOf ⟨.declared n, []⟩ = .ok fields ∧ ∀ known,
    List.Forall₂ (fun m f => SchemaField.Alike known f (.ofMember m)) members fields

/-- A model publishes its fields. -/
theorem listedAs_of_model (h : Style.model.Declares cat n members)
    (htypes : ∀ m ∈ members, m.2.IsFieldType) : ListedAs cat n members := by
  obtain ⟨hunregistered, m, hm, hfields⟩ := h.lists
  have hrecorded : cat.recordedFields? ⟨.declared n, []⟩ = some m.fields := by
    rw [Catalog.recordedFields?]
    dsimp only
    rw [hm]
    rfl
  refine ⟨m.fields.map Catalog.ofModelField, ?_, fun known => ?_⟩
  · unfold Catalog.fieldsOf
    rw [hunregistered, h.isModel]
    simp only [decide_true, if_true, Catalog.modelFields, hrecorded]
    rfl
  · rw [List.forall₂_map_right_iff]
    have hall := (List.forall₂_and_left _ _).mpr ⟨htypes, hfields⟩
    exact hall.imp fun m f hf => hf.2.alike hf.1 known

/-- A dataclass publishes its stored fields, with the types that its hints have for their names. -/
theorem listedAs_of_dataclass (h : Style.dataclass.Declares cat n members)
    (hnodup : (members.map Prod.fst).Nodup) : ListedAs cat n members := by
  obtain ⟨hunregistered, hhints, fields, hdata, hfields⟩ := h.lists
  unfold ListedAs Catalog.fieldsOf
  rw [hunregistered, h.isModel]
  simp only [h.dataclassFields?, hdata, hhints]
  refine ⟨_, rfl, fun known => ?_⟩
  have hstored : fields.filter (·.role = .stored) = fields := by
    have hroles : ∀ f ∈ fields, f.role = .stored :=
      ((List.forall₂_and_left _ _).mp (hfields.flip.imp fun f m hf => ⟨hf.role, hf⟩)).1
    exact List.filter_eq_self.mpr fun f hf => by simp [hroles f hf]
  rw [hstored, List.forall₂_map_right_iff]
  -- As names are not repeated, the hint for the name of a member is the type of this member.
  have hmem : ∀ m ∈ members, OrderedMap.find? m.1 members = some m.2 :=
    fun m hm => OrderedMap.find?_of_mem hnodup hm
  refine ((List.forall₂_and_left _ _).mpr ⟨hmem, hfields⟩).imp fun m f hf => ?_
  obtain ⟨hfind, hname, -, hdescription⟩ := hf
  rw [hname, hfind, hdescription]
  exact .refl known _

/-- Every other class publishes the hints that are stored. -/
theorem listedAs_of_hints (h : s.Declares cat n members)
    (hhints : cat.hints ⟨.declared n, []⟩ = .ok members) (hmodel : s ≠ .model)
    (hdataclass : s ≠ .dataclass) (hnames : ∀ m ∈ members, m.1.startsWith "__" = false)
    (htypes : ∀ m ∈ members, m.2.IsFieldType) : ListedAs cat n members := by
  unfold ListedAs Catalog.fieldsOf
  rw [h.lists.unregistered, h.isModel, decide_eq_false hmodel]
  simp only [h.dataclassFields?, h.unlisted hdataclass, hhints]
  refine ⟨_, rfl, fun known => ?_⟩
  have hstored : ∀ p : String × TypeExpr → Bool, (∀ m, p m = Catalog.isStored m.1 m.2) →
      members.filter p = members := fun p hp =>
    List.filter_eq_self.mpr fun m hm => (hp m).trans ((htypes m hm).isStored (hnames m hm))
  rw [hstored, List.forall₂_map_right_iff]
  · exact List.forall₂_same.mpr fun m _ => .refl known _
  · exact fun m => rfl

/-- The data members of the class are compiled like its members, whatever its style. -/
theorem fieldsOf (h : s.Declares cat n members) (hnodup : (members.map Prod.fst).Nodup)
    (hnames : ∀ m ∈ members, m.1.startsWith "__" = false)
    (htypes : ∀ m ∈ members, m.2.IsFieldType) : ListedAs cat n members := by
  cases s with
  | model => exact h.listedAs_of_model htypes
  | dataclass => exact h.listedAs_of_dataclass hnodup
  | plain | namedTuple | typedDict =>
      exact h.listedAs_of_hints h.lists.listed nofun nofun hnames htypes

end Style.Declares

/-! ## Restyled programs -/

/-- Two programs that know the same of all classes but one, from which nothing is derived. -/
structure SameElsewhere (n : Nat) (cat cat' : Catalog) : Prop where
  outline {id : ClassId} : id ≠ .declared n → (cat.info id).outline = (cat'.info id).outline
  underived {id : ClassId} : id ≠ .declared n → ∀ d ∈ (cat.info id).mro, d.id ≠ .declared n
  module (c : ClassRef) : cat.moduleOf c = cat'.moduleOf c
  descriptions : cat.descriptions = cat'.descriptions

/-- Two programs that differ in how one class is declared, which has the same names in both. -/
structure Restyled (n : Nat) (cat cat' : Catalog) : Prop extends SameElsewhere n cat cat' where
  name : (cat.info (.declared n)).name = (cat'.info (.declared n)).name
  qualname : (cat.info (.declared n)).qualname = (cat'.info (.declared n)).qualname

namespace Restyled

variable {s s' : Style} {cat cat' : Catalog} {n : Nat} {members : List (String × TypeExpr)}

theorem mro (h : Restyled n cat cat') {c : ClassRef} (hc : c.id ≠ .declared n) :
    cat.mro c = cat'.mro c := by
  have hmro : (cat.info c.id).mro = (cat'.info c.id).mro :=
    (congrArg ClassInfo.mro (h.outline hc) :)
  rw [Catalog.mro, Catalog.mro, hmro]

theorem derives (h : Restyled n cat cat') {c : ClassRef} (hc : c.id ≠ .declared n) :
    cat.derives c = cat'.derives c := by
  funext b
  rw [Catalog.derives, Catalog.derives, h.mro hc]

/-- What the first of its ancestors says that says anything is the same for a class, where the
ancestors say the same. -/
theorem findSome?_mro {α : Type} (h : Restyled n cat cat') {id : ClassId} (hid : id ≠ .declared n)
    {f f' : ClassRef → Option α} (hf : ∀ d, d.id ≠ .declared n → f d = f' d) :
    (cat.mro ⟨id, []⟩).findSome? f = (cat'.mro ⟨id, []⟩).findSome? f' := by
  rw [← h.mro hid]
  have hmap : (cat.mro ⟨id, []⟩).map f = (cat.mro ⟨id, []⟩).map f' :=
    List.map_congr_left fun d hd => hf d (h.underived hid d hd)
  calc (cat.mro ⟨id, []⟩).findSome? f
    _ = ((cat.mro ⟨id, []⟩).map f).findSome? (fun o => o) := by rw [List.findSome?_map]; rfl
    _ = ((cat.mro ⟨id, []⟩).map f').findSome? (fun o => o) := by rw [hmap]
    _ = (cat.mro ⟨id, []⟩).findSome? f' := by rw [List.findSome?_map]; rfl

theorem sameNames (h : Restyled n cat cat') : SameNames cat cat' where
  name id := by
    by_cases hid : id = .declared n
    · exact hid ▸ h.name
    · exact (congrArg ClassInfo.name (h.outline hid) :)
  qualname id := by
    by_cases hid : id = .declared n
    · exact hid ▸ h.qualname
    · exact (congrArg ClassInfo.qualname (h.outline hid) :)

theorem sameTexts (h : Restyled n cat cat') (hs : s.Declares cat n members)
    (hs' : s'.Declares cat' n members) : SameTexts (.declared n) cat cat' where
  toSameNames := h.sameNames
  module := h.module
  enumeration c := by
    by_cases hc : c.id = .declared n
    · rw [hs.isEnumeration hc, hs'.isEnumeration hc]
    · rw [Catalog.isEnumeration, Catalog.isEnumeration, h.derives hc]
  flag c := by
    by_cases hc : c.id = .declared n
    · rw [hs.derives hc, hs'.derives hc]
      cases s <;> cases s' <;> rfl
    · rw [h.derives hc]
  shownFields {id} hid := by
    have htuple : (cat.mro ⟨id, []⟩).findSome? (fun d => (cat.info d.id).tupleFields) =
        (cat'.mro ⟨id, []⟩).findSome? fun d => (cat'.info d.id).tupleFields :=
      h.findSome?_mro hid fun d hd => (congrArg ClassInfo.tupleFields (h.outline hd) :)
    have hdata : cat.dataclassFields? ⟨id, []⟩ = cat'.dataclassFields? ⟨id, []⟩ :=
      h.findSome?_mro hid fun d hd => (congrArg ClassInfo.dataFields (h.outline hd) :)
    unfold Catalog.shownFields?
    dsimp only
    rw [htuple, hdata, h.sameNames.nameOf, h.sameNames.qualnameOf]
  shownNames {id} name hid := by
    have hdata : (cat.info id).dataFields = (cat'.info id).dataFields :=
      (congrArg ClassInfo.dataFields (h.outline hid) :)
    have hattributes : (cat.info id).attributes = (cat'.info id).attributes :=
      (congrArg ClassInfo.attributes (h.outline hid) :)
    unfold Catalog.shownNames?
    dsimp only
    rw [hdata, hattributes]

theorem agree (h : Restyled n cat cat') (hs : s.Declares cat n members)
    (hs' : s'.Declares cat' n members) : Agree cat cat' where
  kind c := by
    by_cases hc : c.id = .declared n
    · rw [hs.kindOf hc, hs'.kindOf hc]
    · unfold Catalog.kindOf Catalog.isString Catalog.isInteger Catalog.isNumber Catalog.isBoolean
        Catalog.isCollection Catalog.derivesAny Catalog.isEnumeration
      rw [h.derives hc]
  custom c := by rw [Catalog.isCustom, Catalog.isCustom, h.module]
  referenceId := (h.sameTexts hs hs').referenceId
  description c := by rw [Catalog.typeDescription?, Catalog.typeDescription?, h.descriptions]
  memberNames {c} hkind := by
    have hc : c.id ≠ .declared n := by
      intro hc
      exact absurd (hkind.symm.trans (hs.kindOf hc)) (by simp)
    exact (congrArg ClassInfo.members (h.outline hc) :)

/-- Two lists whose items are related to the same items are related to each other. -/
theorem forall₂_of_common {α β γ : Type} {R : α → β → Prop} {S : α → γ → Prop} {T : β → γ → Prop}
    (hT : ∀ {a b c}, R a b → S a c → T b c) {xs : List α} {ys : List β} {zs : List γ}
    (hR : List.Forall₂ R xs ys) (hS : List.Forall₂ S xs zs) : List.Forall₂ T ys zs := by
  induction hR generalizing zs with
  | nil =>
      cases hS
      exact .nil
  | cons hR _ ih =>
      cases hS with
      | cons hS hrest => exact .cons (hT hR hS) (ih hrest)

/-- The data members of the class are compiled alike in both programs. -/
theorem sameMembers (hs : s.Declares cat n members) (hs' : s'.Declares cat' n members)
    (hnodup : (members.map Prod.fst).Nodup) (hnames : ∀ m ∈ members, m.1.startsWith "__" = false)
    (htypes : ∀ m ∈ members, m.2.IsFieldType) :
    SameMembers cat (cat.fieldsOf ⟨.declared n, []⟩) (cat'.fieldsOf ⟨.declared n, []⟩) := by
  obtain ⟨fields, hfields, halike⟩ := hs.fieldsOf hnodup hnames htypes
  obtain ⟨fields', hfields', halike'⟩ := hs'.fieldsOf hnodup hnames htypes
  rw [hfields, hfields']
  exact .ok (forall₂_of_common (fun hf hf' => ⟨hf.name.trans hf'.name.symm,
    hf.form.trans hf'.form.symm⟩) (halike cat) (halike' cat))

end Restyled

namespace Catalog

/-- What is compiled does not depend on the style of a class: neither the schema of a type, nor the
message of an error, nor the field and the class that it names. -/
theorem build_eq_of_restyled {cat cat' : Catalog} {n : Nat} {s s' : Style}
    {members : List (String × TypeExpr)} (h : Restyled n cat cat')
    (hs : s.Declares cat n members) (hs' : s'.Declares cat' n members)
    (hnodup : (members.map Prod.fst).Nodup) (hnames : ∀ m ∈ members, m.1.startsWith "__" = false)
    (htypes : ∀ m ∈ members, m.2.IsFieldType) {t : TypeExpr}
    (ht : t.hasInstanceOf (.declared n) = false)
    (hothers : ∀ c, Reaches cat t c → c ≠ ⟨.declared n, []⟩ → cat.fieldsOf c = cat'.fieldsOf c)
    (hfields : ∀ c fields, Reaches cat t c → cat.fieldsOf c = .ok fields →
      ∀ f ∈ fields, f.type.hasInstanceOf (.declared n) = false) (limit : Int) :
    cat.build limit t = cat'.build limit t ∧ ∀ e, cat.build limit t = .error e →
      cat.errorMessage e = cat'.errorMessage e ∧ ∀ cause place, e = .unresolvable cause place →
        place.owner.map cat.ownerName = place.owner.map cat'.ownerName := by
  have hmembers : ∀ c, Reaches cat t c → SameMembers cat (cat.fieldsOf c) (cat'.fieldsOf c) := by
    intro c hc
    by_cases hself : c = ⟨.declared n, []⟩
    · exact hself ▸ Restyled.sameMembers hs hs' hnodup hnames htypes
    · rw [hothers c hc hself]
      exact .refl cat _
  refine ⟨build_eq_of_agree (h.agree hs hs') hmembers limit, fun e he => ?_⟩
  have hshown := shown_of_build ht hfields he
  have htexts := h.sameTexts hs hs'
  refine ⟨htexts.errorMessage hshown, ?_⟩
  rintro cause place rfl
  exact Option.map_congr fun owner howner =>
    htexts.ownerName (hshown owner (List.mem_append_right _ (Option.mem_toList.mpr howner)))

end Catalog

end TypeSchema
