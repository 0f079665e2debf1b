import TypeSchema.Proofs.Compile.Root
import TypeSchema.Proofs.Declaration.Members
/-!
# Annotations as data members

The annotations of a class are those in the bodies of the class and its ancestors. Resolution goes
through the ancestors from the last one to the class itself; a name keeps the place where it was
first met, and has the type of the most derived class that annotates it (`keys_hints`,
`exists_annotator`).

Not every annotation names a data member. Variables of the class, arguments of its initialiser and
names between double underscores are left out. The test that the class is listed with looks at less
than that: any name that starts with two underscores is left out, and an argument of the
initialiser stays where more is attached to it. `fieldsOf_annotations_iff` says that the two agree
on a class exactly when it has neither.
-/

namespace TypeSchema

variable {α β : Type}

/-- Two tests leave the same of a list exactly when they agree on all of it. -/
theorem filter_eq_filter_iff {p q : α → Bool} {xs : List α} :
    xs.filter p = xs.filter q ↔ ∀ x ∈ xs, p x = q x := by
  constructor
  · intro h x hx
    have hiff : x ∈ xs.filter p ↔ x ∈ xs.filter q := by rw [h]
    rw [List.mem_filter, List.mem_filter, and_iff_right hx, and_iff_right hx] at hiff
    exact Bool.eq_iff_iff.mpr hiff
  · exact List.filter_congr

/-! ## What evaluations return -/

namespace Eval

theorem Returns.of_value {P : α → Prop} {a : Eval α} {x : α} {cat : Catalog} (ha : Returns a P)
    (h : Eval.value a cat = .ok x) : P x := by
  unfold value at h
  cases hrun : a.run (cat.newTrace none) with
  | error e => exact absurd (hrun ▸ h) (by simp [Except.map])
  | ok result =>
      rw [hrun] at h
      obtain rfl := Except.ok.inj h
      exact ha _ _ _ hrun

end Eval

namespace Catalog

variable {cat : Catalog} {c : ClassRef} {hints : List (String × TypeExpr)} {name : String}
  {t : TypeExpr}

/-! ## The merge of annotations -/

/-- What is written in the body of a class means the type, at some moment of a resolution. -/
def Means (cat : Catalog) (b : ClassRef) (written t : TypeExpr) : Prop :=
  ∃ trace trace', (cat.meaning (cat.hintScope b) written).run trace = .ok (t, trace')

/-- The annotations in the body of a class, and what they mean. -/
def Resolved (cat : Catalog) (b : ClassRef) (layer : List (String × TypeExpr)) : Prop :=
  List.Forall₂ (fun a m => m.1 = a.1 ∧ cat.Means b a.2 m.2) (cat.info b.id).annotations layer

/-- The most derived class that annotates a name. -/
def annotator? (cat : Catalog) (c : ClassRef) (name : String) : Option ClassRef :=
  (cat.mro c).find? fun b => name ∈ OrderedMap.keys (cat.info b.id).annotations

theorem returns_ownHints (b : ClassRef) :
    Eval.Returns (cat.ownHintsBy cat.eval b) (cat.Resolved b) := by
  unfold ownHintsBy
  refine .bind (Eval.returns_true _) fun _ _ => .mapM (fun a => ?_) _
  have hmeaning : Eval.Returns (cat.meaningBy cat.eval (cat.hintScope b) a.2) (cat.Means b a.2) :=
    fun trace t trace' hrun => ⟨trace, trace', hrun⟩
  exact .bind hmeaning fun t ht => .pure ⟨rfl, ht⟩

/-- Resolution goes through the bodies of the ancestors, from the last one to the class itself. -/
theorem exists_layers (h : cat.hints c = .ok hints) :
    ∃ layers, List.Forall₂ cat.Resolved (cat.mro c).reverse layers ∧
      hints = OrderedMap.ofList layers.flatten := by
  have hreturns : Eval.Returns (cat.hintsBy cat.eval c) fun hints =>
      ∃ layers, List.Forall₂ cat.Resolved (cat.mro c).reverse layers ∧
        hints = OrderedMap.ofList layers.flatten := by
    unfold hintsBy
    exact .bind (.mapM returns_ownHints _) fun layers hlayers => .pure ⟨layers, hlayers, rfl⟩
  exact hreturns.of_value h

theorem Resolved.keys_eq {b : ClassRef} {layer : List (String × TypeExpr)}
    (h : cat.Resolved b layer) :
    OrderedMap.keys layer = OrderedMap.keys (cat.info b.id).annotations :=
  OrderedMap.keys_of_forall₂ (h.imp fun _ _ ham => ham.1)

theorem Resolved.means {b : ClassRef} {layer : List (String × TypeExpr)}
    (h : cat.Resolved b layer) (ht : (name, t) ∈ layer) :
    ∃ written, (name, written) ∈ (cat.info b.id).annotations ∧ cat.Means b written t := by
  obtain ⟨⟨_, written⟩, hwritten, rfl, hmeans⟩ := OrderedMap.exists_of_forall₂ h ht
  exact ⟨written, hwritten, hmeans⟩

section Layers

variable {bs : List ClassRef} {layers : List (List (String × TypeExpr))}

theorem keys_layers (h : List.Forall₂ cat.Resolved bs layers) :
    OrderedMap.keys layers.flatten =
      bs.flatMap fun b => OrderedMap.keys (cat.info b.id).annotations := by
  induction h with
  | nil => rfl
  | cons hlayer _ ih =>
      rw [List.flatMap_cons, ← ih, ← hlayer.keys_eq]
      exact List.map_append

/-- Of all bodies the last that annotates a name decides on its type. -/
theorem exists_last_layer (h : List.Forall₂ cat.Resolved bs layers)
    (ht : (name, t) ∈ OrderedMap.ofList layers.flatten) :
    ∃ b layer, bs.reverse.find? (fun b => name ∈ OrderedMap.keys (cat.info b.id).annotations) =
      some b ∧ cat.Resolved b layer ∧ (name, t) ∈ layer := by
  refine OrderedMap.exists_last_of_forall₂ (fun b layer hlayer => ?_) h ht
  rw [decide_eq_true_iff, hlayer.keys_eq]

end Layers

/-- The names of all bodies, each at the place where it is first met. -/
theorem keys_hints (h : cat.hints c = .ok hints) :
    OrderedMap.keys hints = ((cat.mro c).reverse.flatMap fun b =>
      OrderedMap.keys (cat.info b.id).annotations).eraseDups := by
  obtain ⟨layers, hlayers, rfl⟩ := exists_layers h
  rw [OrderedMap.keys_ofList, keys_layers hlayers]

/-- A name has the type of the most derived class that annotates it. -/
theorem exists_annotator (h : cat.hints c = .ok hints) (ht : (name, t) ∈ hints) :
    ∃ b written, cat.annotator? c name = some b ∧
      (name, written) ∈ (cat.info b.id).annotations ∧ cat.Means b written t := by
  obtain ⟨layers, hlayers, rfl⟩ := exists_layers h
  obtain ⟨b, layer, hfind, hlayer, hmem⟩ := exists_last_layer hlayers ht
  rw [List.reverse_reverse] at hfind
  obtain ⟨written, hwritten, hmeans⟩ := hlayer.means hmem
  exact ⟨b, written, hfind, hwritten, hmeans⟩

/-! ## The annotations that name data members -/

/-- Whether a name stands between double underscores. -/
def isDunder (name : String) : Bool := name.startsWith "__" && name.endsWith "__"

/-- An annotation without what is attached to it. -/
def unannotated : TypeExpr → TypeExpr
  | .annotated inner _ => inner
  | t => t

/-- Whether an annotation is that of a variable of the class, with a type or without. -/
def isClassVar : TypeExpr → Bool
  | .form .classVar | .subscript (.form .classVar) _ => true
  | _ => false

/-- Whether an annotation is that of an argument of the initialiser, with a type or without. -/
def isInitVar : TypeExpr → Bool
  | .cls (.builtin .initVar) [] | .initVar _ _ => true
  | _ => false

/-- Whether an annotation has no storage in instances: that of a variable of the class or of an
argument of the initialiser, whatever is attached to it, or that of a name between double
underscores. -/
def isLeftOut (name : String) (t : TypeExpr) : Bool :=
  isDunder name || isClassVar (unannotated t) || isInitVar (unannotated t)

/-- The test of the listing looks at how a name starts, and at the bare annotation for variables of
the class only. -/
theorem isStored_eq (name : String) (t : TypeExpr) :
    isStored name t = !(name.startsWith "__" || isClassVar (unannotated t) || isInitVar t) := by
  unfold isStored
  cases name.startsWith "__" with
  | true => rfl
  | false =>
      -- No other expressions are looked at than these.
      cases t with
      | annotated inner metadata =>
          dsimp only [unannotated, isInitVar]
          unfold isClassVar
          split <;> split <;> simp_all
      | cls id args =>
          dsimp only [unannotated, isClassVar]
          unfold isInitVar
          split <;> split <;> simp_all
      | form f => cases f <;> rfl
      | subscript head args =>
          cases head with
          | form f => cases f <;> rfl
          | _ => rfl
      | _ => rfl

/-- A data member is missed: its name starts with double underscores, but it has storage. -/
def IsMissed (name : String) (t : TypeExpr) : Prop :=
  name.startsWith "__" = true ∧ isLeftOut name t = false

/-- An argument of the initialiser is listed, since something is attached to its annotation. -/
def IsTaken (name : String) (t : TypeExpr) : Prop :=
  name.startsWith "__" = false ∧ isInitVar t = false ∧ isInitVar (unannotated t) = true

instance (name : String) (t : TypeExpr) : Decidable (IsMissed name t) :=
  inferInstanceAs (Decidable (_ ∧ _))

instance (name : String) (t : TypeExpr) : Decidable (IsTaken name t) :=
  inferInstanceAs (Decidable (_ ∧ _))

/-- A variable of the class is no argument of the initialiser. -/
theorem not_isInitVar_of_isClassVar {t : TypeExpr} (h : isClassVar t = true) :
    isInitVar t = false := by
  unfold isClassVar at h
  split at h
  · rfl
  · rfl
  · exact absurd h (by simp)

/-- Attaching something to an annotation of an argument of the initialiser hides it, and nothing
else makes one. -/
theorem isInitVar_of_unannotated {t : TypeExpr} (h : isInitVar (unannotated t) = false) :
    isInitVar t = false := by
  cases t with
  | annotated inner metadata => rfl
  | _ => exact h

theorem IsMissed.not_isLeftOut {t : TypeExpr} (h : IsMissed name t) : isLeftOut name t = false := h.2

theorem IsTaken.isLeftOut {t : TypeExpr} (h : IsTaken name t) : isLeftOut name t = true := by
  obtain ⟨-, -, hinner⟩ := h
  rw [Catalog.isLeftOut, hinner, Bool.or_true]

/-- What is listed has storage and is not missed, or is taken. -/
theorem isStored_iff (name : String) (t : TypeExpr) :
    isStored name t = true ↔ (isLeftOut name t = false ∧ ¬IsMissed name t) ∨ IsTaken name t := by
  rw [isStored_eq]
  unfold IsMissed IsTaken isLeftOut isDunder
  cases hstart : name.startsWith "__" with
  | true =>
      rw [Bool.true_and]
      cases name.endsWith "__" || isClassVar (unannotated t) || isInitVar (unannotated t) <;> simp
  | false =>
      cases hclass : isClassVar (unannotated t) with
      | true => simp [not_isInitVar_of_isClassVar hclass]
      | false =>
          cases hinner : isInitVar (unannotated t) with
          | true => simp
          | false => simp [isInitVar_of_unannotated hinner]

/-- The listing deviates where a data member is missed or an argument of the initialiser taken. -/
theorem isStored_eq_iff (name : String) (t : TypeExpr) :
    isStored name t = !isLeftOut name t ↔ ¬IsMissed name t ∧ ¬IsTaken name t := by
  have hmissed : IsMissed name t → isLeftOut name t = false := IsMissed.not_isLeftOut
  have htaken : IsTaken name t → isLeftOut name t = true := IsTaken.isLeftOut
  rw [Bool.eq_iff_iff, isStored_iff, Bool.not_eq_true']
  cases hleft : isLeftOut name t with
  | true =>
      have hnot : ¬IsMissed name t := fun h => absurd (hleft.symm.trans (hmissed h)) (by simp)
      simp [hnot]
  | false =>
      have hnot : ¬IsTaken name t := fun h => absurd (hleft.symm.trans (htaken h)) (by simp)
      simp [hnot]

/-! ## Classes that are listed by their annotations -/

/-- What is listed for an annotation. -/
def hinted (m : String × TypeExpr) : SchemaField := ⟨m.1, m.2, none⟩

theorem hinted_injective : Function.Injective hinted := by
  rintro ⟨name, t⟩ ⟨name', t'⟩ h
  obtain ⟨rfl, rfl, -⟩ := SchemaField.mk.inj h
  rfl

theorem fieldsOf_of_hints (hregistered : cat.registered? c = none) (hmodel : cat.isModel c = false)
    (hdata : cat.dataclassFields? c = none) (hhints : cat.hints c = .ok hints) :
    cat.fieldsOf c = .ok ((hints.filter fun m => isStored m.1 m.2).map hinted) := by
  unfold fieldsOf
  rw [hregistered, hmodel, hdata, hhints]
  rfl

/-- A class that is listed by its annotations has those of itself and its ancestors, each name at the
place where it is first met and with the type of the most derived class that annotates it. Left out
are those without storage, exactly when no name with storage starts with double underscores and
nothing is attached to the annotation of an argument of the initialiser. What is listed keeps its
order in any case. -/
theorem fieldsOf_annotations_iff (hregistered : cat.registered? c = none)
    (hmodel : cat.isModel c = false) (hdata : cat.dataclassFields? c = none)
    (hhints : cat.hints c = .ok hints) :
    OrderedMap.keys hints = ((cat.mro c).reverse.flatMap fun b =>
      OrderedMap.keys (cat.info b.id).annotations).eraseDups ∧
    (∀ name t, (name, t) ∈ hints → ∃ b written, cat.annotator? c name = some b ∧
      (name, written) ∈ (cat.info b.id).annotations ∧ cat.Means b written t) ∧
    ∃ fields, cat.fieldsOf c = .ok fields ∧
      (fields = (hints.filter fun m => !isLeftOut m.1 m.2).map hinted ↔
        ∀ name t, (name, t) ∈ hints → ¬IsMissed name t ∧ ¬IsTaken name t) ∧
      fields.Sublist (hints.map hinted) ∧
      ∀ name t, (name, t) ∈ hints → (hinted (name, t) ∈ fields ↔
        (isLeftOut name t = false ∧ ¬IsMissed name t) ∨ IsTaken name t) := by
  refine ⟨keys_hints hhints, fun name t ht => exists_annotator hhints ht, _,
    fieldsOf_of_hints hregistered hmodel hdata hhints, ?_, List.filter_sublist.map _, ?_⟩
  · rw [(List.map_injective_iff.mpr hinted_injective).eq_iff, filter_eq_filter_iff]
    constructor
    · intro h name t ht
      exact (isStored_eq_iff name t).mp (h (name, t) ht)
    · rintro h ⟨name, t⟩ ht
      exact (isStored_eq_iff name t).mpr (h name t ht)
  · intro name t ht
    rw [List.mem_map_of_injective hinted_injective, List.mem_filter, and_iff_right ht]
    exact isStored_iff name t

/-- Annotations are listed under different names. -/
theorem nodup_names_of_hints {fields : List SchemaField} (hregistered : cat.registered? c = none)
    (hmodel : cat.isModel c = false) (hdata : cat.dataclassFields? c = none)
    (h : cat.fieldsOf c = .ok fields) : (fields.map (·.name)).Nodup := by
  cases hhints : cat.hints c with
  | error e =>
      unfold fieldsOf at h
      rw [hregistered, hmodel, hdata, hhints] at h
      exact absurd h (by simp)
  | ok hints =>
      obtain rfl := Except.ok.inj
        ((fieldsOf_of_hints hregistered hmodel hdata hhints).symm.trans h)
      have hsub : ((hints.filter fun m => isStored m.1 m.2).map hinted).map (·.name) =
          OrderedMap.keys (hints.filter fun m => isStored m.1 m.2) := List.map_map
      have hnodup : (OrderedMap.keys hints).Nodup := by
        obtain ⟨layers, -, rfl⟩ := exists_layers hhints
        exact OrderedMap.nodup_keys_ofList _
      rw [hsub]
      exact hnodup.sublist (List.filter_sublist.map Prod.fst)

/-! ## Two programs -/

/-- What is computed of a result holds of a result. -/
theorem exists_ok {x : Except EvalError α} {p : α → Bool} (h : x.toOption.any p = true) :
    ∃ a, x = .ok a ∧ p a = true := by
  cases x with
  | error e => exact absurd h (by simp [Except.toOption])
  | ok a => exact ⟨a, rfl, by simpa [Except.toOption] using h⟩

/-- A program that declares a typed dictionary by a call, with the keys `__id`, `label` and
`__meta__`. -/
def rows : Catalog :=
  (empty.declare (.cls .functionalTypedDict { ClassHead.ofName "Row" none with
    fields := [⟨"__id", .name "int", .plain⟩, ⟨"label", .name "str", .plain⟩,
      ⟨"__meta__", .name "str", .plain⟩] } [])).2

/-- The key `__id` is missed: it is no name between double underscores, and what is listed is not
what has storage. -/
theorem fieldsOf_key_missed :
    rows.Declared ∧ rows.isTypedDict (.declared 0) = true ∧
    rows.registered? (.declared 0) = none ∧ rows.isModel (.declared 0) = false ∧
    rows.dataclassFields? (.declared 0) = none ∧
    ∃ hints fields, rows.hints (.declared 0) = .ok hints ∧ rows.fieldsOf (.declared 0) = .ok fields ∧
      ("__id", .builtin .int) ∈ hints ∧ isDunder "__id" = false ∧
      hinted ("__id", .builtin .int) ∉ fields ∧
      fields ≠ (hints.filter fun m => !isLeftOut m.1 m.2).map hinted := by
  obtain ⟨hints, hhints, hmem⟩ := exists_ok (x := rows.hints (.declared 0))
    (p := fun hints => hints.contains ("__id", .builtin .int)) (by decide +kernel)
  obtain ⟨fields, hfields, hnames⟩ := exists_ok (x := rows.fieldsOf (.declared 0))
    (p := fun fields => !fields.contains (hinted ("__id", .builtin .int))) (by decide +kernel)
  have hmem : ("__id", .builtin .int) ∈ hints := List.contains_iff_mem.mp hmem
  have hmissed : hinted ("__id", .builtin .int) ∉ fields := by simpa using hnames
  refine ⟨.declare _ .empty, by decide +kernel, by decide +kernel, by decide +kernel,
    by decide +kernel, hints, fields, hhints, hfields, hmem, by decide +kernel, hmissed, ?_⟩
  rintro rfl
  exact hmissed (List.mem_map_of_mem (List.mem_filter.mpr ⟨hmem, by decide +kernel⟩))

/-- A program that declares settings on top of others: a host, a port that is declared again, and a
limit that all settings share. -/
def settings : Catalog :=
  let integer : Expression := .name "int"
  let shared : Expression := .subscript (.path ["typing", "ClassVar"]) [integer]
  let base := (empty.declare (.cls .plain { ClassHead.ofName "Base" none with
    fields := [⟨"host", .name "str", .plain⟩, ⟨"port", integer, .plain⟩,
      ⟨"limit", shared, .plain⟩] } [])).2
  (base.declare (.cls .plain { ClassHead.ofName "Settings" none with
    bases := [.name "Base"]
    fields := [⟨"retries", integer, .plain⟩, ⟨"port", .name "float", .plain⟩,
      ⟨"__version__", .name "str", .plain⟩] } [])).2

/-- The port keeps its place, and takes the type that it has last. -/
theorem fieldsOf_annotations_iff_settings :
    ∃ hints fields, settings.hints (.declared 1) = .ok hints ∧
      OrderedMap.keys hints = ["host", "port", "limit", "retries", "__version__"] ∧
      settings.fieldsOf (.declared 1) = .ok fields ∧
      fields = (hints.filter fun m => !isLeftOut m.1 m.2).map hinted ∧
      fields.map (·.name) = ["host", "port", "retries"] ∧
      ∃ b written, settings.annotator? (.declared 1) "port" = some b ∧
        ("port", written) ∈ (settings.info b.id).annotations ∧
        settings.Means b written (.builtin .float) := by
  obtain ⟨hints, hhints, hchecked⟩ := exists_ok (x := settings.hints (.declared 1))
    (p := fun hints => decide (("port", .builtin .float) ∈ hints ∧
      (∀ m ∈ hints, ¬IsMissed m.1 m.2 ∧ ¬IsTaken m.1 m.2) ∧
      OrderedMap.keys (hints.filter fun m => !isLeftOut m.1 m.2) = ["host", "port", "retries"]))
    (by decide +kernel)
  obtain ⟨hport, hagree, hnames⟩ := of_decide_eq_true hchecked
  obtain ⟨hkeys, htypes, fields, hfields, hiff, -⟩ :=
    fieldsOf_annotations_iff (by decide +kernel) (by decide +kernel) (by decide +kernel) hhints
  have hlisted := hiff.mpr fun name t ht => hagree (name, t) ht
  refine ⟨hints, fields, hhints, hkeys.trans (by decide +kernel), hfields, hlisted, ?_,
    htypes "port" _ hport⟩
  rw [hlisted, List.map_map]
  exact hnames

end Catalog

end TypeSchema
