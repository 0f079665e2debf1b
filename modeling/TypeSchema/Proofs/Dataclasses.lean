import TypeSchema.Proofs.Annotations
import TypeSchema.Proofs.Declaration.Records
/-!
# Dataclasses as lists of fields

Two merges meet in what is listed for a dataclass. Its fields come from the *dataclasses* among its
ancestors: each field is contributed by one of them, under whose annotation it is kept
(`Catalog.Contributes`). The types come from the resolved annotations, which are those of *all*
ancestors: a name has the type of the most derived class that annotates it.

Both lists have the same names, in the order of the fields (`fieldsOf_dataclass`), but the class that
gives the type need not be the one that contributes the field: a plain class that is derived from a
dataclass may annotate a field again, which makes no field of it (`fieldsOf_type_of_other`). Where one
class is derived from the other, and only dataclasses annotate anything, the two are the same
(`Contributes.annotator?_eq`).
-/

namespace TypeSchema

namespace Catalog

variable {cat : Catalog} {own : ClassId → List DataField} {c d b : ClassRef} {f : DataField}
  {name : String} {fields : List DataField}

/-! ## Who contributes a field -/

/-- Whether a class lists a field under a name. -/
def listsField (cat : Catalog) (name : String) (b : ClassRef) : Bool :=
  (((cat.dataclassFields? b).getD []).map DataField.name).contains name

/-- A field of a class is contributed by a dataclass: by the class itself if the field is among its
own, or else by the class that contributes it to the first ancestor that lists it. A class that is no
dataclass has the fields of the first of its ancestors that is one. -/
inductive Contributes (cat : Catalog) (own : ClassId → List DataField) (name : String) :
    ClassRef → ClassRef → Prop
  | own {c : ClassRef} : (cat.info c.id).dataFields.isSome →
      name ∈ (own c.id).map DataField.name → Contributes cat own name c c
  | inherited {c b d : ClassRef} : (cat.info c.id).dataFields.isSome →
      name ∉ (own c.id).map DataField.name →
      (cat.info c.id).mro.tail.find? (cat.listsField name) = some b →
      Contributes cat own name b d → Contributes cat own name c d
  | derived {c b d : ClassRef} : (cat.info c.id).dataFields = none →
      (cat.mro c).find? (fun b => (cat.info b.id).dataFields.isSome) = some b →
      Contributes cat own name b d → Contributes cat own name c d

/-- A field is contributed by one class. -/
theorem Contributes.unique {d' : ClassRef} (h : cat.Contributes own name c d)
    (h' : cat.Contributes own name c d') : d = d' := by
  induction h with
  | own hdata hown =>
      cases h' with
      | own => rfl
      | inherited _ hnot => exact absurd hown hnot
      | derived hnone => rw [hnone] at hdata; exact absurd hdata nofun
  | inherited hdata hnot hfind _ ih =>
      cases h' with
      | own _ hown => exact absurd hown hnot
      | inherited _ _ hfind' h' =>
          obtain rfl := Option.some.inj (hfind.symm.trans hfind')
          exact ih h'
      | derived hnone => rw [hnone] at hdata; exact absurd hdata nofun
  | derived hnone hfind _ ih =>
      cases h' with
      | own hdata => rw [hnone] at hdata; exact absurd hdata nofun
      | inherited hdata => rw [hnone] at hdata; exact absurd hdata nofun
      | derived _ hfind' h' =>
          obtain rfl := Option.some.inj (hfind.symm.trans hfind')
          exact ih h'

theorem keys_fields (fields : List DataField) :
    OrderedMap.keys (fields.map fun f => (f.name, f)) = fields.map DataField.name :=
  List.map_map

/-- Fields are put together by name. -/
theorem name_of_mem_ofList {p : String × DataField}
    (h : p ∈ OrderedMap.ofList (fields.map fun f => (f.name, f))) : p.1 = p.2.name := by
  obtain ⟨g, -, rfl⟩ := List.mem_map.mp (OrderedMap.mem_of_mem_ofList h)
  rfl

theorem mem_names_mergeFields {inherited own : List DataField} :
    name ∈ (mergeFields inherited own).map DataField.name ↔
      name ∈ inherited.map DataField.name ∨ name ∈ own.map DataField.name := by
  have hnames : (mergeFields inherited own).map DataField.name =
      OrderedMap.keys (OrderedMap.ofList ((inherited ++ own).map fun f => (f.name, f))) := by
    rw [mergeFields, List.map_map]
    exact List.map_congr_left fun p hp => (name_of_mem_ofList hp).symm
  rw [hnames, OrderedMap.mem_keys_ofList, keys_fields, List.map_append, List.mem_append]

/-- A field of a dataclass is its own, or the first ancestor that has a field of its name lists it. -/
theorem Bodies.mem_cases (h : cat.Bodies own) {id : ClassId}
    (hfields : (cat.info id).dataFields = some fields) (hf : f ∈ fields) :
    f ∈ own id ∨ f.name ∉ (own id).map DataField.name ∧
      ∃ b, (cat.info id).mro.tail.find? (cat.listsField f.name) = some b ∧
        f ∈ (cat.dataclassFields? b).getD [] := by
  have hpairs : (f.name, f) ∈ OrderedMap.ofList
      ((cat.inheritedData id ++ own id).map fun f => (f.name, f)) := by
    rw [h.fields_eq hfields] at hf
    obtain ⟨⟨key, f'⟩, hpair, rfl⟩ := List.mem_map.mp hf
    exact name_of_mem_ofList hpair ▸ hpair
  rw [List.map_append, OrderedMap.mem_ofList_append_iff] at hpairs
  rcases hpairs with hown | ⟨hnot, hinherited⟩
  · obtain ⟨g, hg, heq⟩ := List.mem_map.mp (OrderedMap.mem_of_mem_ofList hown)
    obtain ⟨-, rfl⟩ := Prod.mk.inj heq
    exact .inl hg
  · rw [inheritedData, List.map_flatMap] at hinherited
    obtain ⟨b, hfind, hmem⟩ := OrderedMap.exists_last_of_mem_ofList hinherited
    obtain ⟨g, hg, heq⟩ := List.mem_map.mp hmem
    obtain ⟨-, rfl⟩ := Prod.mk.inj heq
    refine .inr ⟨keys_fields _ ▸ hnot, b, ?_, hg⟩
    rw [List.reverse_reverse] at hfind
    simp only [keys_fields] at hfind
    exact hfind

/-! ## Each field is contributed -/

/-- No built-in class is derived from the one that describes fields. -/
theorem schemaField_not_mem_ancestors (b : Builtin) : .schemaField ∉ b.ancestors := by
  cases b with
  | creator m => cases m <;> decide
  | other name =>
      by_cases hname : name = "ExceptionGroup"
      · subst hname
        decide
      · have hexceptions : ∀ order ∈ Builtin.exceptionOrders,
            Builtin.schemaField ∉ order ++ [Builtin.object] := by decide +kernel
        rw [Builtin.ancestors_other hname]
        exact hexceptions _ (Builtin.exceptionAncestors_mem name)
  | _ => decide

/-- The one built-in class that is a dataclass. -/
theorem eq_schemaField_of_dataFields {b : Builtin} (h : (builtinInfo b).dataFields ≠ none) :
    b = .schemaField := by
  by_contra hb
  exact h (if_neg hb)

/-- No ancestor of a built-in class is a dataclass. -/
theorem dataFields_of_mem_ancestors {b b' : Builtin} (h : b' ∈ b.ancestors) :
    (builtinInfo b').dataFields = none := by
  by_contra hdata
  exact schemaField_not_mem_ancestors b (eq_schemaField_of_dataFields hdata ▸ h)

/-- A class that lists fields and comes after another in its order was there before it, and so are its
ancestors in the order. -/
theorem Linear.before_of_mem_tail (hlinear : cat.Linear) (hb : b ∈ (cat.info c.id).mro.tail)
    (hlists : cat.dataclassFields? b ≠ none) :
    ∃ i, c.id = .declared i ∧ b.id.IsBefore i ∧ ∀ d ∈ cat.mro b, d ∈ cat.mro c := by
  have hsub : ∀ d ∈ (cat.info c.id).mro, d ∈ cat.mro c := by
    intro d hd
    rw [mro]
    split
    · exact hd
    · exact List.mem_cons_of_mem c hd
  cases hid : c.id with
  | builtin bc =>
      rw [hid] at hb
      obtain ⟨b', hb', rfl⟩ := List.mem_map.mp hb
      refine absurd (List.findSome?_eq_none_iff.mpr fun d hd => ?_) hlists
      obtain ⟨b'', hb'', rfl⟩ := List.mem_map.mp hd
      rcases List.mem_cons.mp hb'' with rfl | hb''
      · exact dataFields_of_mem_ancestors hb'
      · exact dataFields_of_mem_ancestors hb''
  | declared i =>
      rw [hid] at hb hsub
      rcases Nat.lt_or_ge i cat.classes.length with hi | hi
      · exact ⟨i, rfl, hlinear.earlier hi b hb, fun d hd =>
          hsub d (hlinear.nested hi b (List.mem_of_mem_tail hb) d hd)⟩
      · rw [info, List.getD_eq_default _ _ hi] at hb
        exact absurd hb List.not_mem_nil

/-- A dataclass among the ancestors of a class that is none comes after it. -/
theorem Linear.mem_tail_of_mem_mro (hlinear : cat.Linear) (hb : b ∈ cat.mro c)
    (hc : (cat.info c.id).dataFields = none) (hdata : (cat.info b.id).dataFields ≠ none) :
    b ∈ (cat.info c.id).mro.tail := by
  have hne : b.id ≠ c.id := by
    intro hid
    rw [hid] at hdata
    exact hdata hc
  have horder : b ∈ (cat.info c.id).mro := by
    unfold mro at hb
    split at hb
    · exact hb
    · exact (List.mem_cons.mp hb).resolve_left fun heq => hne (congrArg ClassRef.id heq)
  cases hid : c.id with
  | builtin bc =>
      rw [hid] at horder hne
      exact (List.mem_cons.mp horder).resolve_left fun heq => hne (congrArg ClassRef.id heq)
  | declared i =>
      rw [hid] at horder hne
      rcases Nat.lt_or_ge i cat.classes.length with hi | hi
      · obtain ⟨tail, heq⟩ := List.head?_eq_some_iff.mp (hlinear.head hi)
        rw [heq] at horder ⊢
        exact (List.mem_cons.mp horder).resolve_left fun heq => hne (congrArg ClassRef.id heq)
      · rw [info, List.getD_eq_default _ _ hi] at horder
        obtain rfl := List.mem_singleton.mp horder
        exact absurd rfl hdata

/-- A class comes first among its ancestors if there is something to know of it. -/
theorem Linear.exists_mro_cons (hlinear : cat.Linear)
    (hdata : (cat.info c.id).dataFields ≠ none) : ∃ tail, cat.mro c = c :: tail := by
  obtain ⟨id, args⟩ := c
  cases args with
  | cons t ts => exact ⟨_, rfl⟩
  | nil =>
      cases id with
      | builtin b => exact ⟨_, rfl⟩
      | declared i =>
          rcases Nat.lt_or_ge i cat.classes.length with hi | hi
          · exact List.head?_eq_some_iff.mp (hlinear.head hi)
          · dsimp only at hdata
            rw [info, List.getD_eq_default _ _ hi] at hdata
            exact absurd rfl hdata

/-- A class that is a dataclass itself lists its own list. -/
theorem Linear.dataclassFields?_eq (hlinear : cat.Linear)
    (hdata : (cat.info c.id).dataFields = some fields) : cat.dataclassFields? c = some fields := by
  obtain ⟨tail, horder⟩ := hlinear.exists_mro_cons (c := c) (by rw [hdata]; nofun)
  rw [dataclassFields?, horder, List.findSome?_cons, hdata]

theorem find?_of_findSome? {α β : Type} {g : α → Option β} {xs : List α} {y : β}
    (h : xs.findSome? g = some y) :
    ∃ x, xs.find? (fun x => (g x).isSome) = some x ∧ g x = some y := by
  obtain ⟨before, x, after, rfl, hx, hbefore⟩ := List.findSome?_eq_some_iff.mp h
  refine ⟨x, List.find?_eq_some_iff_append.mpr ⟨by rw [hx]; rfl, before, after, rfl, ?_⟩, hx⟩
  intro y hy
  rw [hbefore y hy]
  rfl

/-- A field of a class is its own, or one that an ancestor listed. So it is contributed by one of the
ancestors, if what they list is. -/
theorem Bodies.exists_contributes_of_tail (h : cat.Bodies own) (hlinear : cat.Linear)
    (hfields : cat.dataclassFields? c = some fields) (hf : f ∈ fields)
    (htail : ∀ b ∈ (cat.info c.id).mro.tail, ∀ listed, cat.dataclassFields? b = some listed →
      f ∈ listed → ∃ d ∈ cat.mro c, cat.Contributes own f.name b d ∧ f ∈ own d.id ∧
        IsBody (cat.info d.id).annotations (own d.id)) :
    ∃ d ∈ cat.mro c, cat.Contributes own f.name c d ∧ f ∈ own d.id ∧
      IsBody (cat.info d.id).annotations (own d.id) := by
  cases hdata : (cat.info c.id).dataFields with
  | some listed =>
      have hlisted := hlinear.dataclassFields?_eq hdata
      obtain rfl : listed = fields := Option.some.inj (hlisted.symm.trans hfields)
      have hsome : (cat.info c.id).dataFields.isSome = true := by rw [hdata]; rfl
      rcases h.mem_cases hdata hf with hown | ⟨hnot, b, hfind, hb⟩
      · obtain ⟨tail, horder⟩ := hlinear.exists_mro_cons (c := c) (by rw [hdata]; nofun)
        exact ⟨c, by rw [horder]; exact List.mem_cons_self,
          .own hsome (List.mem_map_of_mem hown), hown, h.isBody hdata⟩
      · cases hlists : cat.dataclassFields? b with
        | none => rw [hlists] at hb; exact absurd hb List.not_mem_nil
        | some inherited =>
            rw [hlists] at hb
            obtain ⟨d, hd, hcontributes, hown⟩ :=
              htail b (List.mem_of_find?_eq_some hfind) inherited hlists hb
            exact ⟨d, hd, .inherited hsome hnot hfind hcontributes, hown⟩
  | none =>
      -- A class that lists no fields has those of the first of its ancestors that lists some.
      obtain ⟨b, hfind, hlisted⟩ := find?_of_findSome? hfields
      have hb : (cat.info b.id).dataFields ≠ none := by rw [hlisted]; nofun
      have hmem := hlinear.mem_tail_of_mem_mro (List.mem_of_find?_eq_some hfind) hdata hb
      obtain ⟨d, hd, hcontributes, hown⟩ :=
        htail b hmem fields (hlinear.dataclassFields?_eq hlisted) hf
      exact ⟨d, hd, .derived hdata hfind hcontributes, hown⟩

/-- Every field of a class is contributed by one of its ancestors, which annotates it. -/
theorem Bodies.exists_contributes (h : cat.Bodies own) (hlinear : cat.Linear)
    (hfields : cat.dataclassFields? c = some fields) (hf : f ∈ fields) :
    ∃ d ∈ cat.mro c, cat.Contributes own f.name c d ∧ f ∈ own d.id ∧
      IsBody (cat.info d.id).annotations (own d.id) := by
  -- The induction is on when the class was declared: ancestors that list fields were declared before.
  have hmain : ∀ n c fields, c.id.IsBefore n → cat.dataclassFields? c = some fields → f ∈ fields →
      ∃ d ∈ cat.mro c, cat.Contributes own f.name c d ∧ f ∈ own d.id ∧
        IsBody (cat.info d.id).annotations (own d.id) := by
    intro n
    induction n using Nat.strongRecOn with
    | ind n ih =>
        intro c fields hc hfields hf
        refine h.exists_contributes_of_tail hlinear hfields hf fun b hb listed hlisted hf => ?_
        obtain ⟨i, hid, hbefore, hsub⟩ := hlinear.before_of_mem_tail hb (by rw [hlisted]; nofun)
        rw [hid] at hc
        obtain ⟨d, hd, hcontributes⟩ := ih i hc b listed hbefore hlisted hf
        exact ⟨d, hsub d hd, hcontributes⟩
  cases hid : c.id with
  | builtin b => exact hmain 0 c fields (by rw [hid]; exact trivial) hfields hf
  | declared i => exact hmain (i + 1) c fields (by rw [hid]; exact Nat.lt_succ_self i) hfields hf

/-! ## What an annotation means -/

/-- Whether what an annotation means depends on names that are looked up, or on which types are the
same. -/
def isLookedUp : TypeExpr → Bool
  | .constant (.string _) | .forwardRef .. | .union .. => true
  | _ => false

/-- Whether a type has no storage in instances: that of a variable of the class or of an argument of
the initialiser. -/
def isUnstored (t : TypeExpr) : Bool := isClassVar t || isInitVar t

theorem returns_annotated (inner : TypeExpr) (metadata : List TypeExpr) :
    Eval.Returns (cat.annotated inner metadata) fun t => isUnstored t = false := by
  have hannotate (inner : TypeExpr) : isUnstored (inner.annotate metadata) = false := by
    unfold TypeExpr.annotate
    split <;> rfl
  have hthrow {e : EvalError} : Eval.Returns (throw e : Eval TypeExpr)
      fun t => isUnstored t = false := fun _ _ _ hrun => absurd hrun nofun
  unfold annotated
  split
  · exact hthrow
  · exact .pure (hannotate _)
  · exact .pure (hannotate _)
  · exact hthrow
  · exact hthrow
  · exact .ite hthrow (.pure (hannotate _))
  · exact .pure (hannotate _)

/-- What stands before the brackets decides. -/
theorem isUnstored_subscript (head : Head) (args args' : List TypeExpr) :
    isUnstored (.subscript head args) = isUnstored (.subscript head args') := by
  cases head with
  | form f => cases f <;> rfl
  | _ => rfl

/-- Replacing references inside a type does not make it one without storage. -/
theorem returns_mapReferences {f : TypeExpr.Resolver} {written : TypeExpr}
    (hlooked : isLookedUp written = false) (hstored : isUnstored written = false) :
    Eval.Returns (cat.mapReferences f written) fun t => isUnstored t = false := by
  cases written with
  | forwardRef => exact absurd hlooked nofun
  | union => exact absurd hlooked nofun
  | subscript head args =>
      cases head with
      | direct id | flat id =>
          rw [mapReferences]
          refine .bind (Eval.returns_true _) fun _ _ => .pure ?_
          split <;> rfl
      | _ =>
          rw [mapReferences]
          · exact .bind (Eval.returns_true _) fun args' _ =>
              .pure ((isUnstored_subscript _ args' args).trans hstored)
          all_goals (intros; contradiction)
  | annotated inner metadata =>
      rw [mapReferences]
      exact .bind (Eval.returns_true _) fun inner _ => returns_annotated inner metadata
  | unpacked inner =>
      rw [mapReferences]
      exact .bind (Eval.returns_true _) fun _ _ => .pure rfl
  | _ =>
      rw [mapReferences]
      · exact .pure hstored
      all_goals (intros; contradiction)

/-- An annotation that is not looked up means a type without storage only if it is one. -/
theorem Means.isUnstored {written t : TypeExpr} (h : cat.Means b written t)
    (hlooked : isLookedUp written = false) (hstored : isUnstored written = false) :
    isUnstored t = false := by
  obtain ⟨trace, trace', hrun⟩ := h
  have hresolve (t : TypeExpr) (hlooked : isLookedUp t = false)
      (hstored : Catalog.isUnstored t = false) : Eval.Returns
        (cat.resolve cat.eval (cat.hintScope b) t) fun t => Catalog.isUnstored t = false := by
    unfold resolve
    cases cat.referenceDepth t with
    | zero => exact .pure hstored
    | succ depth => exact returns_mapReferences hlooked hstored
  have htyped : Eval.Returns (typed written none true) fun t =>
      isLookedUp t = false ∧ Catalog.isUnstored t = false := by
    unfold typed
    split
    · exact .pure ⟨rfl, rfl⟩
    · exact absurd hlooked nofun
    · exact .pure ⟨hlooked, hstored⟩
  exact (Eval.Returns.bind htyped fun t ht => hresolve t ht.1 ht.2) trace t trace' hrun

/-- A class means itself. -/
theorem Means.eq_of_cls {id : ClassId} {args : List TypeExpr} {t : TypeExpr}
    (h : cat.Means b (.cls id args) t) : t = .cls id args := by
  have hresolve : Eval.Returns (cat.resolve cat.eval (cat.hintScope b) (.cls id args))
      fun t => t = .cls id args := by
    unfold resolve
    cases cat.referenceDepth (.cls id args) with
    | zero => exact .pure rfl
    | succ depth =>
        rw [resolveIn, mapReferences]
        · exact .pure rfl
        all_goals (intros; contradiction)
  obtain ⟨trace, trace', hrun⟩ := h
  exact hresolve trace t trace' hrun

/-! ## What is listed -/

/-- What is listed for a field of a class. One of the ancestors contributes the field; the type is
what the most derived ancestor that annotates the name means. If these are the same, then the
annotation is that of the field, and does not mean a type without storage unless it is looked up. -/
structure Lists (cat : Catalog) (own : ClassId → List DataField) (c : ClassRef) (f : DataField)
    (e : SchemaField) : Prop where
  name : e.name = f.name
  description : e.description = f.description
  type : ∃ d ∈ cat.mro c, cat.Contributes own f.name c d ∧
    (f.name, f.written) ∈ (cat.info d.id).annotations ∧
    ∃ b written, cat.annotator? c f.name = some b ∧
      (f.name, written) ∈ (cat.info b.id).annotations ∧ cat.Means b written e.type ∧
      (b = d → written = f.written ∧ (isLookedUp f.written = false → isUnstored e.type = false))

/-- The entry for a field. -/
def dataEntry (hints : List (String × TypeExpr)) (f : DataField) : SchemaField where
  name := f.name
  type := (OrderedMap.find? f.name hints).getD f.written
  description := f.description

theorem fieldsOf_of_dataclass {hints : List (String × TypeExpr)}
    (hregistered : cat.registered? c = none) (hmodel : cat.isModel c = false)
    (hfields : cat.dataclassFields? c = some fields) (hhints : cat.hints c = .ok hints) :
    cat.fieldsOf c = .ok ((fields.filter (·.role = .stored)).map (dataEntry hints)) := by
  unfold fieldsOf
  rw [hregistered, hmodel, hfields, hhints]
  rfl

/-- Every stored field is listed as it should be. -/
theorem Bodies.lists {hints : List (String × TypeExpr)} (h : cat.Bodies own)
    (hlinear : cat.Linear) (hcat : cat.Declared) (hfields : cat.dataclassFields? c = some fields)
    (hhints : cat.hints c = .ok hints) (hf : f ∈ fields) (hrole : f.role = .stored) :
    cat.Lists own c f (dataEntry hints f) := by
  obtain ⟨d, hd, hcontributes, hown, hbody⟩ := h.exists_contributes hlinear hfields hf
  have hannotated : (f.name, f.written) ∈ (cat.info d.id).annotations :=
    hbody.written.subset (List.mem_map_of_mem (f := fun f => (f.name, f.written)) hown)
  have hkey : f.name ∈ OrderedMap.keys hints := by
    rw [keys_hints hhints, List.mem_eraseDups]
    exact List.mem_flatMap.mpr
      ⟨d, List.mem_reverse.mpr hd, OrderedMap.mem_keys_of_mem hannotated⟩
  obtain ⟨t, ht⟩ : ∃ t, OrderedMap.find? f.name hints = some t :=
    Option.ne_none_iff_exists'.mp fun hnone => OrderedMap.find?_eq_none_iff.mp hnone hkey
  obtain ⟨b, written, hannotator, hwritten, hmeans⟩ :=
    exists_annotator hhints (OrderedMap.mem_of_find? ht)
  have htype : (dataEntry hints f).type = t := by rw [dataEntry, ht]; rfl
  refine ⟨rfl, rfl, d, hd, hcontributes, hannotated, b, written, hannotator, hwritten, ?_, ?_⟩
  · rwa [htype]
  rintro rfl
  have hsame : written = f.written := by
    have hnodup := hcat.nodup_annotations b.id
    exact Option.some.inj ((OrderedMap.find?_of_mem hnodup hwritten).symm.trans
      (OrderedMap.find?_of_mem hnodup hannotated))
  refine ⟨hsame, fun hlooked => ?_⟩
  obtain ⟨hvariable, hargument⟩ := hbody.stored hown hrole
  have hunstored : isUnstored f.written = false := Bool.or_eq_false_iff.mpr ⟨hvariable, hargument⟩
  rw [htype]
  exact (hsame ▸ hmeans).isUnstored hlooked hunstored

/-- A dataclass, or a class derived from one, has an entry for each of its stored fields, in their
order. -/
theorem fieldsOf_dataclass (hcat : cat.Declared) (hgrounded : cat.Grounded) :
    ∃ own, cat.Bodies own ∧ ∀ c fields hints, cat.registered? c = none → cat.isModel c = false →
      cat.dataclassFields? c = some fields → cat.hints c = .ok hints →
      ∃ entries, cat.fieldsOf c = .ok entries ∧
        List.Forall₂ (cat.Lists own c) (fields.filter (·.role = .stored)) entries := by
  have hlinear := hcat.linear hgrounded
  obtain ⟨own, hbodies⟩ := hcat.exists_bodies hgrounded
  refine ⟨own, hbodies, fun c fields hints hregistered hmodel hfields hhints =>
    ⟨_, fieldsOf_of_dataclass hregistered hmodel hfields hhints, ?_⟩⟩
  rw [List.forall₂_map_right_iff, List.forall₂_same]
  intro f hf
  obtain ⟨hf, hrole⟩ := List.mem_filter.mp hf
  exact hbodies.lists hlinear hcat hfields hhints hf (of_decide_eq_true hrole)

/-! ## Where both merges agree -/

/-- A class that is derived from one class at most, which is derived from one class at most, and so
on. -/
inductive Chain (cat : Catalog) : ClassRef → Prop
  | first {id : ClassId} : (cat.info id).mro = [⟨id, []⟩] → Chain cat ⟨id, []⟩
  | next {id : ClassId} {b : ClassRef} : (cat.info id).mro = ⟨id, []⟩ :: cat.mro b → Chain cat b →
      Chain cat ⟨id, []⟩

/-- A dataclass lists every name that its ancestors list. -/
theorem Bodies.listsField_of_tail (h : cat.Bodies own) (hlinear : cat.Linear)
    (hdata : (cat.info c.id).dataFields = some fields) (hb : b ∈ (cat.info c.id).mro.tail)
    (hlists : cat.listsField name b = true) : cat.listsField name c = true := by
  rw [listsField, List.contains_iff_mem] at hlists ⊢
  rw [hlinear.dataclassFields?_eq hdata, Option.getD_some, h.fields_eq hdata, mem_names_mergeFields]
  obtain ⟨f, hf, rfl⟩ := List.mem_map.mp hlists
  refine .inl (List.mem_map_of_mem ?_)
  exact List.mem_flatMap.mpr ⟨b, List.mem_reverse.mpr hb, hf⟩

/-- Along a chain of classes no listed name gets lost. -/
theorem Chain.listsField (hchain : cat.Chain c) (h : cat.Bodies own) (hlinear : cat.Linear)
    (hb : b ∈ cat.mro c) (hlists : cat.listsField name b = true) :
    cat.listsField name c = true := by
  induction hchain with
  | @first id horder =>
      have hsame : b = ⟨id, []⟩ := List.mem_singleton.mp (horder ▸ hb)
      exact hsame ▸ hlists
  | @next id parent horder _ ih =>
      have hmro : cat.mro ⟨id, []⟩ = ⟨id, []⟩ :: cat.mro parent := horder
      rw [hmro] at hb
      rcases List.mem_cons.mp hb with rfl | hb
      · exact hlists
      cases hdata : (cat.info id).dataFields with
      | some fields =>
          refine h.listsField_of_tail hlinear hdata ?_ hlists
          rw [horder]
          exact hb
      | none =>
          have hsame : cat.dataclassFields? ⟨id, []⟩ = cat.dataclassFields? parent := by
            rw [dataclassFields?, hmro, List.findSome?_cons, hdata]
            rfl
          rw [Catalog.listsField, hsame]
          exact ih hb

theorem Chain.exists_mro_cons (hchain : cat.Chain c) : ∃ tail, cat.mro c = c :: tail := by
  cases hchain with
  | first horder => exact ⟨[], horder⟩
  | next horder _ => exact ⟨_, horder⟩

/-- What is contributed to the first of the classes behind a class in a chain that lists the name, or
that is a dataclass, is contributed to the class right behind it. -/
theorem Contributes.parent {parent : ClassRef} (hcontributes : cat.Contributes own name b d)
    (h : cat.Bodies own) (hlinear : cat.Linear) (hchain : cat.Chain parent)
    (hfind : (cat.mro parent).find? (cat.listsField name) = some b ∨
      (cat.mro parent).find? (fun b => (cat.info b.id).dataFields.isSome) = some b) :
    cat.Contributes own name parent d := by
  obtain ⟨tail, hmro⟩ := hchain.exists_mro_cons
  rcases hfind with hfind | hfind
  · have hlists : cat.listsField name parent = true :=
      hchain.listsField h hlinear (List.mem_of_find?_eq_some hfind)
        (List.find?_some hfind)
    rw [hmro, List.find?_cons_of_pos hlists] at hfind
    exact Option.some.inj hfind ▸ hcontributes
  · cases hdata : (cat.info parent.id).dataFields with
    | none => exact .derived hdata hfind hcontributes
    | some fields =>
        rw [hmro, List.find?_cons_of_pos (by rw [hdata]; rfl)] at hfind
        exact Option.some.inj hfind ▸ hcontributes

/-- A dataclass annotates the fields that it adds, so that no search for one goes further. -/
theorem Bodies.annotator?_eq_self (h : cat.Bodies own) (hchain : cat.Chain c)
    (hdata : (cat.info c.id).dataFields.isSome) (hown : name ∈ (own c.id).map DataField.name) :
    cat.annotator? c name = some c := by
  obtain ⟨fields, hfields⟩ := Option.isSome_iff_exists.mp hdata
  obtain ⟨f, hf, rfl⟩ := List.mem_map.mp hown
  have hmem : (f.name, f.written) ∈ (cat.info c.id).annotations :=
    (h.isBody hfields).written.subset (List.mem_map_of_mem (f := fun f => (f.name, f.written)) hf)
  obtain ⟨tail, hmro⟩ := hchain.exists_mro_cons
  rw [annotator?, hmro]
  exact List.find?_cons_of_pos (decide_eq_true (OrderedMap.mem_keys_of_mem hmem))

/-- In a chain of classes of which only dataclasses annotate a name, and as a field, the class that
contributes the field is the most derived class that annotates it. -/
theorem Contributes.annotator?_eq (hcontributes : cat.Contributes own name c d)
    (h : cat.Bodies own) (hlinear : cat.Linear) (hchain : cat.Chain c)
    (hannotated : ∀ b ∈ cat.mro c, name ∈ OrderedMap.keys (cat.info b.id).annotations →
      (cat.info b.id).dataFields.isSome ∧ name ∈ (own b.id).map DataField.name) :
    cat.annotator? c name = some d := by
  -- Up the chain both searches go on with the next class, unless they end here together.
  induction hchain with
  | @first id horder =>
      have hmro : cat.mro ⟨id, []⟩ = [⟨id, []⟩] := horder
      cases hcontributes with
      | own hdata hown => exact h.annotator?_eq_self (.first horder) hdata hown
      | inherited _ _ hfind =>
          rw [horder] at hfind
          exact absurd hfind nofun
      | derived hnone hfind =>
          rw [hmro, List.find?_cons_of_neg (by rw [hnone]; nofun)] at hfind
          exact absurd hfind nofun
  | @next id parent horder hchain ih =>
      have hmro : cat.mro ⟨id, []⟩ = ⟨id, []⟩ :: cat.mro parent := horder
      have hlater (hnot : name ∉ OrderedMap.keys (cat.info id).annotations)
          (hparent : cat.Contributes own name parent d) :
          cat.annotator? ⟨id, []⟩ name = some d := by
        rw [annotator?, hmro, List.find?_cons_of_neg (by simpa using hnot)]
        refine ih hparent fun b hb => hannotated b ?_
        rw [hmro]
        exact List.mem_cons_of_mem _ hb
      have hhead : ⟨id, []⟩ ∈ cat.mro ⟨id, []⟩ := by
        rw [hmro]
        exact List.mem_cons_self
      cases hcontributes with
      | own hdata hown => exact h.annotator?_eq_self (.next horder hchain) hdata hown
      | inherited hdata hnot hfind hcontributes =>
          rw [horder] at hfind
          exact hlater (fun hkey => hnot (hannotated _ hhead hkey).2)
            (hcontributes.parent h hlinear hchain (.inl hfind))
      | derived hnone hfind hcontributes =>
          rw [hmro, List.find?_cons_of_neg (by rw [hnone]; nofun)] at hfind
          refine hlater (fun hkey => ?_) (hcontributes.parent h hlinear hchain (.inr hfind))
          have hdata := (hannotated _ hhead hkey).1
          rw [hnone] at hdata
          exact absurd hdata nofun

/-- What is listed for a field in such a chain has the type that the field's own annotation means. -/
theorem Lists.means_written {e : SchemaField} (hlists : cat.Lists own c f e) (h : cat.Bodies own)
    (hlinear : cat.Linear) (hchain : cat.Chain c)
    (hannotated : ∀ b ∈ cat.mro c, f.name ∈ OrderedMap.keys (cat.info b.id).annotations →
      (cat.info b.id).dataFields.isSome ∧ f.name ∈ (own b.id).map DataField.name) :
    ∃ d, cat.Contributes own f.name c d ∧ (f.name, f.written) ∈ (cat.info d.id).annotations ∧
      cat.Means d f.written e.type ∧ (isLookedUp f.written = false → isUnstored e.type = false) := by
  obtain ⟨d, -, hcontributes, hwritten, b, written, hannotator, -, hmeans, hsame⟩ := hlists.type
  have hd := hcontributes.annotator?_eq h hlinear hchain hannotated
  obtain rfl : b = d := Option.some.inj (hannotator.symm.trans hd)
  obtain ⟨rfl, hstored⟩ := hsame rfl
  exact ⟨b, hcontributes, hwritten, hmeans, hstored⟩

/-! ## Two programs -/

/-- A dataclass of accounts, and a class of accounts on trial that is derived from it: it annotates
the limit again, and is a dataclass itself or not. -/
def accounts (form : ClassForm) : Catalog :=
  let base := (empty.declare (.cls .dataclass { ClassHead.ofName "Account" none with
    fields := [⟨"limit", .name "int", .plain⟩, ⟨"owner", .name "str", .plain⟩] } [])).2
  (base.declare (.cls form { ClassHead.ofName "Trial" none with
    bases := [.name "Account"]
    fields := [⟨"until", .name "str", .plain⟩, ⟨"limit", .name "float", .plain⟩] } [])).2

theorem declared_accounts (form : ClassForm) : (accounts form).Declared :=
  .declare _ (.declare _ .empty)

/-- If accounts on trial are a dataclass, then the limit keeps its place and has its new type. -/
theorem fieldsOf_dataclass_accounts :
    ∃ own, (accounts .dataclass).Bodies own ∧
      ∃ fields entries, (accounts .dataclass).dataclassFields? (.declared 1) = some fields ∧
        (accounts .dataclass).fieldsOf (.declared 1) = .ok entries ∧
        entries.map (fun e => (e.name, e.type)) =
          [("limit", .builtin .float), ("owner", .builtin .str), ("until", .builtin .str)] ∧
        List.Forall₂ ((accounts .dataclass).Lists own (.declared 1))
          (fields.filter (·.role = .stored)) entries := by
  obtain ⟨own, hbodies, hlists⟩ :=
    fieldsOf_dataclass (declared_accounts .dataclass) (by decide +kernel)
  obtain ⟨hints, hhints, -⟩ := exists_ok (x := (accounts .dataclass).hints (.declared 1))
    (p := fun _ => true) (by decide +kernel)
  obtain ⟨fields, hfields⟩ : ∃ fields,
      (accounts .dataclass).dataclassFields? (.declared 1) = some fields :=
    Option.isSome_iff_exists.mp (by decide +kernel)
  obtain ⟨listed, hlisted, hnames⟩ := exists_ok (x := (accounts .dataclass).fieldsOf (.declared 1))
    (p := fun entries => decide (entries.map (fun e => (e.name, e.type)) =
      [("limit", .builtin .float), ("owner", .builtin .str), ("until", .builtin .str)]))
    (by decide +kernel)
  obtain ⟨entries, hentries, hall⟩ :=
    hlists (.declared 1) fields hints (by decide +kernel) (by decide +kernel) hfields hhints
  obtain rfl := Except.ok.inj (hlisted.symm.trans hentries)
  exact ⟨own, hbodies, fields, listed, hfields, hlisted, of_decide_eq_true hnames, hall⟩

/-- If accounts on trial are no dataclass, then the limit is still the field that the dataclass of
accounts contributes, but has a type that its annotation there does not mean. -/
theorem fieldsOf_type_of_other :
    (accounts .plain).Declared ∧ (accounts .plain).Grounded ∧
    ∃ own, (accounts .plain).Bodies own ∧
      (accounts .plain).Contributes own "limit" (.declared 1) (.declared 0) ∧
      ((accounts .plain).info (.declared 0)).annotations.lookup "limit" = some (.builtin .int) ∧
      ∃ entries, (accounts .plain).fieldsOf (.declared 1) = .ok entries ∧
        entries.map (fun e => (e.name, e.type)) =
          [("limit", .builtin .float), ("owner", .builtin .str)] ∧
        ¬(accounts .plain).Means (.declared 0) (.builtin .int) (.builtin .float) := by
  have hgrounded : (accounts .plain).Grounded := by decide +kernel
  obtain ⟨own, hbodies⟩ := (declared_accounts .plain).exists_bodies hgrounded
  obtain ⟨entries, hentries, hnames⟩ := exists_ok (x := (accounts .plain).fieldsOf (.declared 1))
    (p := fun entries => decide (entries.map (fun e => (e.name, e.type)) =
      [("limit", .builtin .float), ("owner", .builtin .str)])) (by decide +kernel)
  refine ⟨declared_accounts _, hgrounded, own, hbodies, ?_, by decide +kernel, entries, hentries,
    of_decide_eq_true hnames, ?_⟩
  · obtain ⟨fields, hfields⟩ : ∃ fields,
        ((accounts .plain).info (.declared 0)).dataFields = some fields :=
      Option.isSome_iff_exists.mp (by decide +kernel)
    have hown : "limit" ∈ (own (.declared 0)).map DataField.name := by
      by_contra hnot
      have hmem : ("limit", .builtin .int) ∈
          ((accounts .plain).info (.declared 0)).annotations := by decide +kernel
      rcases (hbodies.isBody hfields).marked hmem hnot with hmarker | htext
      · exact absurd hmarker (by decide)
      · exact absurd htext (by decide)
    have hfind : ((accounts .plain).mro (.declared 1)).find?
        (fun b => ((accounts .plain).info b.id).dataFields.isSome) = some (.declared 0) := by
      decide +kernel
    have hnone : ((accounts .plain).info (.declared 1)).dataFields.isNone = true := by
      decide +kernel
    have hsome : ((accounts .plain).info (ClassRef.declared 0).id).dataFields.isSome = true :=
      Option.isSome_iff_exists.mpr ⟨fields, hfields⟩
    exact .derived (Option.isNone_iff_eq_none.mp hnone) hfind (.own hsome hown)
  · exact fun hmeans => absurd hmeans.eq_of_cls (by decide)

end Catalog

end TypeSchema
