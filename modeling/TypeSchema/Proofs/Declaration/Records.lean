import TypeSchema.Proofs.Declaration.Order
/-!
# The field lists of declared dataclasses

A dataclass puts its own fields after those of its ancestors, from the last to the first; a name
that comes again keeps its place. What the ancestors listed then is what they list in the finished
program if each class comes after its bases (`Catalog.Grounded`). So the field lists of a program tell
which fields are each dataclass's own, and how they were put together
(`Catalog.Declared.exists_bodies`).
-/

namespace TypeSchema

/-- The fields that a dataclass adds to those of its ancestors are its annotations in their order,
without markers. A marker that is no text is told from its type alone. No stored field is annotated as
a variable of the class or as an argument of the initialiser. -/
structure IsBody (annotations : List (String × TypeExpr)) (own : List DataField) : Prop where
  written : (own.map fun f => (f.name, f.written)).Sublist annotations
  marked {name : String} {t : TypeExpr} : (name, t) ∈ annotations →
    name ∉ own.map DataField.name → t.isKeywordMarker = true ∨ t.asText?.isSome = true
  stored {f : DataField} : f ∈ own → f.role = .stored →
    f.written.isVariableMarker = false ∧ f.written.isArgumentMarker = false

/-- The fields of ancestors with a dataclass's own ones put into them. -/
def mergeFields (inherited own : List DataField) : List DataField :=
  (OrderedMap.ofList ((inherited ++ own).map fun f => (f.name, f))).map Prod.snd

namespace Catalog

variable {cat cat' : Catalog} {own own' : ClassId → List DataField} {n : Nat}

/-- What the ancestors of a class list, from the last to the first. -/
def inheritedData (cat : Catalog) (id : ClassId) : List DataField :=
  (cat.info id).mro.tail.reverse.flatMap fun b => (cat.dataclassFields? b).getD []

/-- Each dataclass lists what its ancestors list and its own fields. -/
structure Bodies (cat : Catalog) (own : ClassId → List DataField) : Prop where
  isBody {id : ClassId} {fields : List DataField} : (cat.info id).dataFields = some fields →
    IsBody (cat.info id).annotations (own id)
  fields_eq {id : ClassId} {fields : List DataField} : (cat.info id).dataFields = some fields →
    fields = mergeFields (cat.inheritedData id) (own id)

/-! ## What a dataclass is made of -/

/-- A test that picks some elements leaves them in their order. -/
theorem sublist_map_filterMap {α β : Type} {f : α → Option β} {g : β → α}
    (hfg : ∀ x y, f x = some y → g y = x) (xs : List α) : ((xs.filterMap f).map g).Sublist xs := by
  induction xs with
  | nil => exact .slnil
  | cons x xs ih =>
      cases hx : f x with
      | none =>
          rw [List.filterMap_cons_none hx]
          exact ih.cons x
      | some y =>
          rw [List.filterMap_cons_some hx, List.map_cons, hfg x y hx]
          exact ih.cons_cons x

/-- A marker that is no text is told from its type. -/
theorem isMarkedAs_eq_true {module library : String} {test : TypeExpr → Bool} {t : TypeExpr}
    (h : cat.isMarkedAs module library test t = true) : test t = true ∨ t.asText?.isSome = true := by
  unfold isMarkedAs at h
  rcases Bool.or_eq_true_iff.mp h with htest | htext
  · exact .inl htest
  · split at htext
    · exact .inr rfl
    · exact absurd htext (by simp)

theorem isMarkedAs_of_test {module library : String} {test : TypeExpr → Bool} {t : TypeExpr}
    (h : test t = true) : cat.isMarkedAs module library test t = true := by
  exact Bool.or_eq_true_iff.mpr (.inl h)

/-- An annotation that makes no field is a marker, or a text that says so. -/
theorem marker_of_fieldRole?_eq_none {module : String} {t : TypeExpr}
    (h : cat.fieldRole? module t = none) :
    t.isKeywordMarker = true ∨ t.asText?.isSome = true := by
  unfold fieldRole? at h
  split at h
  · next hmarked => exact isMarkedAs_eq_true hmarked
  · split at h <;> exact absurd h (by simp)

/-- The annotation of a stored field is no marker of another role. -/
theorem unmarked_of_fieldRole?_eq_stored {module : String} {t : TypeExpr}
    (h : cat.fieldRole? module t = some .stored) :
    t.isVariableMarker = false ∧ t.isArgumentMarker = false := by
  unfold fieldRole? at h
  split at h
  · exact absurd h (by simp)
  split at h
  · exact absurd h (by simp)
  · next hunmarked =>
    rw [Bool.or_eq_true_iff, not_or] at hunmarked
    obtain ⟨hvariable, hargument⟩ := hunmarked
    exact ⟨Bool.eq_false_iff.mpr fun h => hvariable (isMarkedAs_of_test h),
      Bool.eq_false_iff.mpr fun h => hargument (isMarkedAs_of_test h)⟩

/-- What the annotations of a class make of fields is a body. -/
theorem isBody_filterMap (module : String) (annotations : List (String × TypeExpr))
    {fieldOf : String × TypeExpr × Option FieldRole → Option DataField}
    (hnone : ∀ name t, cat.fieldRole? module t = none ↔
      fieldOf (name, t, cat.fieldRole? module t) = none)
    (hsome : ∀ name t role f, fieldOf (name, t, role) = some f →
      f.name = name ∧ f.written = t ∧ role = some f.role) :
    IsBody annotations ((annotations.map fun a =>
      (a.1, a.2, cat.fieldRole? module a.2)).filterMap fieldOf) where
  written := by
    rw [List.filterMap_map]
    refine sublist_map_filterMap (fun a f hmade => ?_) annotations
    obtain ⟨hname, hwritten, -⟩ := hsome _ _ _ _ hmade
    rw [hname, hwritten]
  marked := by
    intro name t ht hname
    cases hrole : cat.fieldRole? module t with
    | none => exact marker_of_fieldRole?_eq_none hrole
    | some role =>
        obtain ⟨f, hmade⟩ := Option.ne_none_iff_exists'.mp fun hfield =>
          absurd ((hnone name t).mpr hfield) (by simp [hrole])
        obtain ⟨hf, -, -⟩ := hsome _ _ _ _ hmade
        refine absurd (List.mem_map.mpr ⟨f, List.mem_filterMap.mpr ⟨_, ?_, hmade⟩, hf⟩) hname
        exact List.mem_map.mpr ⟨(name, t), ht, rfl⟩
  stored := by
    intro f hf hstored
    obtain ⟨row, hrow, hmade⟩ := List.mem_filterMap.mp hf
    obtain ⟨⟨name, t⟩, -, rfl⟩ := List.mem_map.mp hrow
    obtain ⟨-, rfl, hrole⟩ := hsome _ _ _ _ hmade
    exact unmarked_of_fieldRole?_eq_stored (hrole.trans (congrArg some hstored))

/-- A class that is made a dataclass adds a body of its own to what it inherits. -/
theorem exists_isBody {c : ClassRef} {options : List (String × FieldOptions)}
    {fields : List DataField} (h : cat.dataFieldsOf c options = .ok fields) :
    ∃ own, IsBody (cat.info c.id).annotations own ∧
      fields = mergeFields (cat.inheritedData c.id) own := by
  unfold dataFieldsOf at h
  extract_lets info inherited module roles own fields' finish thaw at h
  obtain ⟨-, -, h⟩ := bind_eq_ok_iff.mp h
  obtain ⟨-, -, h⟩ := bind_eq_ok_iff.mp h
  have hthrow {α : Type} {e : DeclareError} {rest : α → Except DeclareError (List DataField)} :
      (throw e >>= rest) ≠ .ok fields := nofun
  split at h
  · exact absurd h hthrow
  dsimp only [thaw] at h
  split at h
  · exact absurd h hthrow
  obtain ⟨-, -, h⟩ := bind_eq_ok_iff.mp h
  refine ⟨_, ?_, (Except.ok.inj h).symm⟩
  refine isBody_filterMap module info.annotations ?_ ?_
  · intro name t
    cases cat.fieldRole? module t <;> simp
  · intro name t role f hmade
    cases role with
    | none => exact absurd hmade (by simp)
    | some role =>
        obtain rfl := Option.some.inj hmade
        exact ⟨rfl, rfl, rfl⟩

/-! ## What was there before -/

theorem findSome?_congr {α β : Type} {f g : α → Option β} {xs : List α}
    (h : ∀ x ∈ xs, f x = g x) : xs.findSome? f = xs.findSome? g := by
  induction xs with
  | nil => rfl
  | cons x xs ih =>
      rw [List.findSome?_cons, List.findSome?_cons, h x List.mem_cons_self,
        ih fun y hy => h y (List.mem_cons_of_mem x hy)]

/-- Of classes of which nothing more is known than before, the ancestors list the same fields. -/
theorem Linear.inheritedData_eq (hlinear : cat.Linear) {id : ClassId}
    (hmro : (cat'.info id).mro = (cat.info id).mro)
    (hbefore : ∀ b ∈ (cat.info id).mro.tail, b.id.IsBefore n)
    (hcore : ∀ id : ClassId, id.IsBefore n → (cat'.info id).core = (cat.info id).core) :
    cat'.inheritedData id = cat.inheritedData id := by
  have hlists : ∀ b ∈ (cat.info id).mro.tail.reverse,
      (cat'.dataclassFields? b).getD [] = (cat.dataclassFields? b).getD [] := by
    intro b hb
    have hb : b.id.IsBefore n := hbefore b (List.mem_reverse.mp hb)
    have hfields : cat'.dataclassFields? b = cat.dataclassFields? b := by
      unfold dataclassFields?
      rw [mro_eq_of_core (hcore b.id hb)]
      refine findSome?_congr fun d hd => dataFields_of_core (hcore d.id ?_)
      exact hlinear.isBefore_of_mem_mro hb hd
    rw [hfields]
  rw [inheritedData, inheritedData, hmro]
  exact List.flatMap_congr hlists

/-! ## Bodies as the catalog grows -/

/-- Where classes from some number on change, what is known of the bodies before stays. -/
theorem Bodies.extend (h : cat.Bodies own) (hlinear : cat.Linear)
    (hcore : ∀ id : ClassId, id.IsBefore n → (cat'.info id).core = (cat.info id).core)
    (hown : ∀ id : ClassId, id.IsBefore n → own' id = own id)
    (hafter : ∀ i ≥ n, ∀ fields, (cat'.info (.declared i)).dataFields = some fields →
      IsBody (cat'.info (.declared i)).annotations (own' (.declared i)) ∧
        fields = mergeFields (cat'.inheritedData (.declared i)) (own' (.declared i))) :
    cat'.Bodies own' := by
  have hall : ∀ id fields, (cat'.info id).dataFields = some fields →
      IsBody (cat'.info id).annotations (own' id) ∧
        fields = mergeFields (cat'.inheritedData id) (own' id) := by
    intro id fields hfields
    have hbefore : id.IsBefore n → IsBody (cat'.info id).annotations (own' id) ∧
        fields = mergeFields (cat'.inheritedData id) (own' id) := by
      intro hid
      have hfields' : (cat.info id).dataFields = some fields :=
        (dataFields_of_core (hcore id hid)).symm.trans hfields
      have hannotations : (cat'.info id).annotations = (cat.info id).annotations :=
        (congrArg ClassInfo.annotations (hcore id hid) :)
      have hmro : (cat'.info id).mro = (cat.info id).mro :=
        (congrArg ClassInfo.mro (hcore id hid) :)
      have htail : ∀ b ∈ (cat.info id).mro.tail, b.id.IsBefore n := fun b hb =>
        hlinear.isBefore_of_mem_order hid (List.mem_of_mem_tail hb)
      rw [hannotations, hlinear.inheritedData_eq hmro htail hcore, hown id hid]
      exact ⟨h.isBody hfields', h.fields_eq hfields'⟩
    cases id with
    | builtin b => exact hbefore trivial
    | declared i =>
        rcases Nat.lt_or_ge i n with hi | hi
        · exact hbefore hi
        · exact hafter i hi fields hfields
  exact ⟨fun hfields => (hall _ _ hfields).1, fun hfields => (hall _ _ hfields).2⟩

/-- Of the built-in classes one is a dataclass, which inherits nothing. -/
theorem isBody_builtin {b : Builtin} {fields : List DataField}
    (h : (cat.info (.builtin b)).dataFields = some fields) :
    IsBody (cat.info (.builtin b)).annotations fields ∧
      fields = mergeFields (cat.inheritedData (.builtin b)) fields := by
  have hdata : (if b = .schemaField then some schemaFieldFields else none) = some fields := h
  split at hdata
  · next hb =>
    subst hb
    obtain rfl := Option.some.inj hdata
    refine ⟨⟨List.Sublist.refl _, fun {name t} ht hname => ?_, fun {f} hf _ => ?_⟩, rfl⟩
    · have hnames : name ∈ schemaFieldFields.map DataField.name :=
        List.mem_map_of_mem (f := Prod.fst) ht
      exact absurd hnames hname
    · have hwritten : ∀ t ∈ schemaFieldFields.map DataField.written,
          t.isVariableMarker = false ∧ t.isArgumentMarker = false := by decide +kernel
      exact hwritten _ (List.mem_map_of_mem hf)
  · exact absurd hdata nofun

theorem bodies_empty : empty.Bodies fun id => ((empty.info id).dataFields).getD [] := by
  refine ⟨fun {id fields} hfields => ?_, fun {id fields} hfields => ?_⟩
  · rw [hfields]
    cases id with
    | builtin b => exact (isBody_builtin hfields).1
    | declared i => exact absurd hfields nofun
  · rw [hfields]
    cases id with
    | builtin b => exact (isBody_builtin hfields).2
    | declared i => exact absurd hfields nofun

theorem Bodies.keep (h : cat.Bodies own) (hlinear : cat.Linear) (hcores : cat'.cores = cat.cores) :
    cat'.Bodies own := by
  refine h.extend (n := cat.cores.length) hlinear (fun id _ => core_info_of_cores hcores id)
    (fun _ _ => rfl) fun i hi fields hfields => ?_
  have hcore := (core_info_of_cores hcores (.declared i)).trans (core_info_of_length_le hi)
  exact absurd ((dataFields_of_core hcore).symm.trans hfields) nofun

/-- A new class is no dataclass yet. -/
theorem Bodies.add (h : cat.Bodies own) (hlinear : cat.Linear) {info : ClassInfo}
    (hnew : info.IsNew) (hcores : cat'.cores = cat.cores ++ [info.core]) : cat'.Bodies own := by
  have hcore : ∀ id : ClassId, id.IsBefore cat.cores.length →
      (cat'.info id).core = (cat.info id).core := by
    intro id hid
    cases id with
    | builtin b => rfl
    | declared i => exact core_info_of_add hcores hid
  refine h.extend hlinear hcore (fun _ _ => rfl) fun i hi fields hfields => ?_
  exact absurd ((dataFields_of_add hnew hcores hi).symm.trans hfields) nofun

/-- A class that is made a dataclass has the body that its annotations make. -/
theorem Bodies.exists_decorate (h : cat.Bodies own) (hlinear : cat.Linear)
    {options : List (String × FieldOptions)} {fields : List DataField}
    (hlast : ∀ i > n, (cat.info (.declared i)).dataFields = none)
    (hfields : cat.dataFieldsOf ⟨.declared n, []⟩ options = .ok fields)
    (hcores : cat'.cores = cat.cores.modify n (ClassInfo.withDataFields fields)) :
    ∃ own', cat'.Bodies own' := by
  have hcore : ∀ id : ClassId, id ≠ .declared n → (cat'.info id).core = (cat.info id).core := by
    intro id hid
    cases id with
    | builtin b => rfl
    | declared i => exact core_info_of_modify hcores fun hi => hid (congrArg _ hi)
  have hearlier : ∀ id : ClassId, id.IsBefore n → id ≠ .declared n := by
    rintro id hid rfl
    exact absurd hid (Nat.lt_irrefl n)
  -- What was known of the classes before it stays, and those after it are no dataclasses.
  obtain ⟨added, hadded, hmerged⟩ := exists_isBody hfields
  refine ⟨Function.update own (.declared n) added,
    h.extend hlinear (fun id hid => hcore id (hearlier id hid))
      (fun id hid => Function.update_of_ne (hearlier id hid) _ _) fun i hi fields' hfields' => ?_⟩
  rcases Nat.eq_or_lt_of_le hi with rfl | hi
  · rw [Function.update_self]
    rcases core_info_of_modify_self hcores with hdata | ⟨hsame, hnone⟩
    · have hannotations : (cat'.info (.declared n)).annotations =
          (cat.info (.declared n)).annotations := (congrArg ClassInfo.annotations hdata :)
      have hmro : (cat'.info (.declared n)).mro = (cat.info (.declared n)).mro :=
        (congrArg ClassInfo.mro hdata :)
      have hlisted : (cat'.info (.declared n)).dataFields = some fields :=
        (congrArg ClassInfo.dataFields hdata :)
      obtain rfl : fields = fields' := Option.some.inj (hlisted.symm.trans hfields')
      rw [hannotations, hlinear.inheritedData_eq hmro
        (fun b hb => hlinear.isBefore_of_mem_tail hb) fun id hid => hcore id (hearlier id hid)]
      exact ⟨hadded, hmerged⟩
    · exact absurd (hnone.symm.trans ((dataFields_of_core hsame).symm.trans hfields')) nofun
  · have hnone := (dataFields_of_core (hcore (.declared i) fun heq =>
      absurd (ClassId.declared.inj heq) (Nat.ne_of_gt hi))).trans (hlast i hi)
    exact absurd (hnone.symm.trans hfields') nofun

/-- In a program each of whose classes comes after its bases, each dataclass lists what its ancestors
list and its own fields. -/
theorem Declared.exists_bodies (h : cat.Declared) (hgrounded : cat.Grounded) :
    ∃ own, cat.Bodies own := by
  have hevolves : Evolves .empty cat := h.evolves
  clear h
  induction hevolves with
  | refl => exact ⟨_, bodies_empty⟩
  | tail hevolves hstep ih =>
      have hbefore := hgrounded.of_step hstep
      have hlinear := Evolves.linear hevolves hbefore
      obtain ⟨own, hbodies⟩ := ih hbefore
      cases hstep with
      | keep hcores => exact ⟨own, hbodies.keep hlinear hcores⟩
      | add info hnew _ hcores => exact ⟨own, hbodies.add hlinear hnew hcores⟩
      | decorate n options fields hlast hfields hcores =>
          exact hbodies.exists_decorate hlinear hlast hfields hcores

/-- No class annotates a name twice. -/
theorem Declared.nodup_annotations (h : cat.Declared) (id : ClassId) :
    (OrderedMap.keys (cat.info id).annotations).Nodup := by
  have hcores := h.forall_cores (Q := fun info => (OrderedMap.keys info.annotations).Nodup)
    (fun info hnew => hnew.annotations) fun _ _ hannotations => hannotations
  have hbuiltin (b : Builtin) : (OrderedMap.keys (builtinInfo b).annotations).Nodup := by
    rw [builtinInfo]
    dsimp only
    split
    · decide
    · exact List.nodup_nil
  cases id with
  | builtin b => exact hbuiltin b
  | declared i =>
      rw [info, List.getD_eq_getElem?_getD]
      cases hi : cat.classes[i]? with
      | none => exact hbuiltin .object
      | some info => exact hcores info.core (List.mem_map_of_mem (List.mem_of_getElem? hi))

end Catalog

end TypeSchema
