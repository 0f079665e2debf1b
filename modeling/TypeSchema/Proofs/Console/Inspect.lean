import TypeSchema.Proofs.Console.Build
import TypeSchema.Proofs.Console.Table
import TypeSchema.Proofs.Objects
/-!
# What the `inspect` command shows

The command lists the data members of a target and tells its reference id. A target that is no class
has no data members, even if it is another name for an optional or an annotated class, of which a
document would be made; and a member that is declared twice is listed twice.

`run_inspect_shows_iff` compares the command with the compiler: it says for which targets with an
object at the root the command shows the names of the properties of the root and the identifier
under which the class of the root is registered.
-/

namespace TypeSchema

namespace Console

variable {cat : Catalog} {t : TypeExpr} {target : String}
  {fields : List SchemaField} {r : Report}

/-! ## Lines -/

theorem outcome_print {markup : String} (h : Printable markup) :
    outcome (print markup) r =
      (.ok (), r.withLines (r.lines ++ keptLines (printed markup))) := by
  obtain ⟨text, htext⟩ := h
  rw [print, printed, htext]
  rfl

/-- The title of the command is a line. -/
theorem outcome_heading : outcome (heading "schema-forge - Inspect Type") r =
    (.ok (), r.withLines (r.lines ++ ["schema-forge - Inspect Type"])) := by
  have hkept : keptLines (printed "[bold cyan]schema-forge - Inspect Type[/bold cyan]") =
      ["schema-forge - Inspect Type"] := by decide +kernel
  exact hkept ▸ outcome_print ⟨_, rfl⟩

/-- A reference id is a line. -/
theorem outcome_referenceId : outcome (print ("[dim]Reference id:[/dim] " ++ cat.referenceId t)) r =
    (.ok (), r.withLines (r.lines ++ ["Reference id: " ++ cat.referenceId t])) := by
  have hword : IsWord (cat.referenceId t).toList := isWord_ofName _
  have hrender : Markup.render ("[dim]Reference id:[/dim] " ++ cat.referenceId t).toList =
      .ok ("Reference id: ".toList ++ (cat.referenceId t).toList) := by
    rw [String.toList_append]
    exact Markup.render_titled hword.2
  have hkept : keptLines (printed ("[dim]Reference id:[/dim] " ++ cat.referenceId t)) =
      ["Reference id: " ++ cat.referenceId t] := by
    have hline : IsLine ("Reference id: ".toList ++ (cat.referenceId t).toList) :=
      hword.isLine.append (by simp [Text.isLineBreak])
    rw [printed, hrender]
    have hstart : "Reference id:" ∈ lineStarts := by decide
    refine (keptLines_line hline hstart ?_).trans ?_
    · exact ⟨' ' :: (cat.referenceId t).toList, by simp⟩
    · rw [← String.toList_append, String.ofList_toList]
  exact hkept ▸ outcome_print ⟨_, hrender⟩

/-! ## The command -/

/-- The table of some data members can be shown. -/
structure Showable (cat : Catalog) (t : TypeExpr) (fields : List SchemaField) : Prop where
  described : ∀ f ∈ fields, (descriptionText? f.description).isSome
  printable : ∀ row ∈ tableTexts cat fields, ∀ text ∈ row, Printable text
  titled : Printable (cat.qualifiedName t)

/-- What the command leaves behind if the table can be shown. -/
def inspected (cat : Catalog) (t : TypeExpr) (fields : List SchemaField) : Report :=
  { exitCode := 0, files := [], document := none
    lines := ["schema-forge - Inspect Type", "Reference id: " ++ cat.referenceId t]
    rows := Screen.seenTable columns (printedCells (tableTexts cat fields)) }

theorem outcome_fieldsOfTarget (h : fieldsOfTarget cat t = .ok fields) :
    outcome (ofSchema (fieldsOfTarget cat t)) r = (.ok fields, r) := by
  rw [h]
  rfl

/-- A target that is read is shown if its table can be, and if not, the command fails. -/
theorem outcome_inspect (hload : cat.load target = .ok t)
    (hfields : fieldsOfTarget cat t = .ok fields) :
    (Showable cat t fields →
      outcome (inspect cat target) .blank = (.ok (), inspected cat t fields)) ∧
    (¬Showable cat t fields → ∃ e r, outcome (inspect cat target) .blank = (.error e, r)) := by
  rw [inspect, outcome_bind_ok outcome_heading, outcome_bind_ok (outcome_load hload),
    outcome_bind_ok (outcome_fieldsOfTarget hfields)]
  obtain ⟨hmade, hunmade⟩ := (settled_fieldRows cat fields).cases fun _ =>
    fieldRows_eq_ok_iff
  obtain ⟨hread, hunread⟩ := (settled_readCells (tableTexts cat fields)).cases fun _ =>
    readCells_eq_ok_iff
  obtain ⟨htitle, huntitled⟩ := (settled_cell (cat.qualifiedName t)).cases fun _ =>
    mapError_render_eq_ok_iff
  constructor
  · rintro ⟨hdescribed, hprintable, htitled⟩
    rw [outcome_bind_ok (hmade hdescribed _),
      outcome_bind_ok (hread (forall_cells_iff.mpr hprintable) _),
      outcome_bind_ok (htitle htitled _), outcome_bind_ok (outcome_modify _), outcome_referenceId]
    rfl
  · intro hnot
    -- The command fails at the first of its three parts for which the target is not fit.
    by_cases hdescribed : ∀ f ∈ fields, (descriptionText? f.description).isSome
    · rw [outcome_bind_ok (hmade hdescribed _)]
      by_cases hprintable : ∀ row ∈ tableTexts cat fields, ∀ text ∈ row, Printable text
      · rw [outcome_bind_ok (hread (forall_cells_iff.mpr hprintable) _)]
        have huntold : ¬Printable (cat.qualifiedName t) := fun htitled =>
          hnot ⟨hdescribed, hprintable, htitled⟩
        obtain ⟨e, he⟩ := huntitled huntold _
        exact ⟨e, _, outcome_bind_error he⟩
      · obtain ⟨e, he⟩ := hunread (forall_cells_iff.not.mpr hprintable) _
        exact ⟨e, _, outcome_bind_error he⟩
    · obtain ⟨e, he⟩ := hunmade hdescribed _
      exact ⟨e, _, outcome_bind_error he⟩

/-- The command shows some names and an identifier. -/
structure Shows (report : Report) (names : List String) (id : String) : Prop where
  succeeds : report.exitCode = 0
  lists : listedNames report.rows = names
  tells : "Reference id: " ++ id ∈ report.lines

variable {arguments : List String}

/-- The command shows the names as they are seen, and the reference id of the target itself. -/
theorem shows_run_inspect_iff (directories : List Path) (names : List String) (id : String)
    (hparse : Arguments.parse arguments = .inspect target) (hload : cat.load target = .ok t)
    (hfields : fieldsOfTarget cat t = .ok fields) :
    Shows (run cat directories arguments) names id ↔ Showable cat t fields ∧
      (fields.map fun f => seenName (fields.map (·.name)) f.name) = names ∧
      id = cat.referenceId t := by
  have hrun : run cat directories arguments = finish cat (inspect cat target) := by
    rw [run, hparse]
  obtain ⟨hshown, hfailed⟩ := outcome_inspect hload hfields
  rw [hrun]
  by_cases h : Showable cat t fields
  · rw [finish_of_ok (hshown h)]
    have htells : "Reference id: " ++ id ∈ (inspected cat t fields).lines ↔
        id = cat.referenceId t := by
      have hhead : "Reference id: " ++ id ≠ "schema-forge - Inspect Type" := by
        intro heq
        have hfirst := congrArg (fun s => s.toList.head?) heq
        simp at hfirst
      simp [inspected, hhead, String.append_right_inj]
    constructor
    · rintro ⟨-, hlists, htold⟩
      exact ⟨h, (listedNames_seenTable fields).symm.trans hlists, htells.mp htold⟩
    · rintro ⟨-, hlists, htold⟩
      exact ⟨rfl, (listedNames_seenTable fields).trans hlists, htells.mpr htold⟩
  · obtain ⟨e, r, hr⟩ := hfailed h
    obtain ⟨lines, hfinish⟩ := finish_of_error cat hr
    rw [hfinish]
    exact iff_of_false (fun hshows => absurd hshows.succeeds (by simp)) fun hshown => h hshown.1

/-! ## Compared with the compiler -/

theorem fieldsOfTarget_class {c : ClassRef} (h : cat.fieldsOf c = .ok fields) :
    fieldsOfTarget cat c.toExpr = .ok fields := by
  rw [fieldsOfTarget, Compile.fieldsOf, TypeExpr.asClass?_toExpr]
  simp only [h]
  rfl

theorem fieldsOfTarget_of_asClass?_eq_none (h : t.asClass? = none) :
    fieldsOfTarget cat t = .ok [] := by
  rw [fieldsOfTarget, Compile.fieldsOf, h]
  rfl

/-- A class whose form is an object is the class of that object. -/
theorem eq_toExpr_of_form {c : ClassRef} {given d : Option Json} {b : ClassRef}
    (h : cat.form t given = .ok (.object c d)) (hclass : t.asClass? = some b) : t = c.toExpr := by
  obtain ⟨core, found, hunwrap, hraw, -⟩ := Catalog.object_of_form h
  obtain rfl := TypeExpr.eq_toExpr_of_asClass? hclass
  have hcore : core = b.toExpr := by
    simp only [ClassRef.toExpr, TypeExpr.unwrap] at hunwrap
    split at hunwrap
    · exact absurd hunwrap (by simp)
    · exact (Prod.mk.inj (Except.ok.inj hunwrap)).1.symm
  have hrawType : b.toExpr.rawType = b.toExpr := by
    simp only [TypeExpr.rawType, ClassRef.toExpr, TypeExpr.origin?]
    split <;> rfl
  rw [hcore, TypeExpr.rawClass?, hrawType, TypeExpr.asClass?_toExpr] at hraw
  rw [Option.some.inj hraw]

variable {cat : Catalog} {arguments : List String} {target : String}
  {limit : Int} {t : TypeExpr} {fields : List SchemaField} {ps : List (String × Node)}
  {required : Option (List String)} {d : Option Json} {ds : Option (List (String × Node))}

/-- The table can be shown, and the names of the data members are seen in it as they are. -/
structure Presentable (cat : Catalog) (t : TypeExpr) (fields : List SchemaField) : Prop
    extends Showable cat t fields where
  seen : ∀ f ∈ fields, seenName (fields.map (·.name)) f.name = f.name

/-- The names are listed as the keys of what is built of them exactly if they differ from each other
and are seen as they are. -/
theorem seenNames_eq_keys_iff {built : List (String × Node)}
    (h : OrderedMap.keys built = fields.map (·.name)) :
    (fields.map fun f => seenName (fields.map (·.name)) f.name) =
        OrderedMap.keys (OrderedMap.ofList built) ↔
      (fields.map (·.name)).Nodup ∧
        ∀ f ∈ fields, seenName (fields.map (·.name)) f.name = f.name := by
  have hown : (OrderedMap.keys built).Nodup →
      OrderedMap.keys (OrderedMap.ofList built) = fields.map (·.name) := fun hnodup => by
    rw [OrderedMap.ofList_of_nodup hnodup, h]
  constructor
  · intro heq
    have hlength : (OrderedMap.ofList built).length = built.length := by
      have h₁ := congrArg List.length heq
      have h₂ := congrArg List.length h
      simp only [OrderedMap.keys, List.length_map] at h₁ h₂
      omega
    have hnodup := OrderedMap.nodup_keys_of_length hlength
    exact ⟨h ▸ hnodup, List.map_inj_left.mp (heq.trans (hown hnodup))⟩
  · rintro ⟨hnodup, hseen⟩
    exact (List.map_inj_left.mpr hseen).trans (hown (h ▸ hnodup)).symm

/-- Where an object is at the root, the command shows the names of its properties and the identifier
under which its class is registered exactly if the target is that class itself, or one without data
members and of the same identifier, the names of the data members differ from each other, and the
table can be presented. -/
theorem run_inspect_shows_iff (directories : List Path)
    (hparse : Arguments.parse arguments = .inspect target) (hload : cat.load target = .ok t)
    (hbuild : cat.build limit t = .ok (.object ps required d ds)) :
    ∃ c fields e, cat.RootedIn limit t (.object ps required d ds) c fields e ∧
      (Shows (run cat directories arguments) (OrderedMap.keys ps) e.id ↔
        (t = c.toExpr ∨ fields = [] ∧ cat.referenceId t = e.id) ∧ (fields.map (·.name)).Nodup ∧
          Presentable cat t fields) := by
  obtain ⟨c, fields, e, hrooted, hid, built, hkeys, rfl⟩ := Catalog.exists_rootedIn hbuild
  refine ⟨c, fields, e, hrooted, ?_⟩
  obtain ⟨given, hform⟩ := hrooted.form
  cases hclass : t.asClass? with
  | some b =>
      -- A target that is a class is the class of the root, so that the table is about its members.
      obtain rfl := eq_toExpr_of_form hform hclass
      rw [shows_run_inspect_iff _ _ _ hparse hload (fieldsOfTarget_class hrooted.fields),
        seenNames_eq_keys_iff hkeys]
      constructor
      · rintro ⟨hshown, ⟨hnodup, hseen⟩, -⟩
        exact ⟨.inl rfl, hnodup, hshown, hseen⟩
      · rintro ⟨-, hnodup, hshown, hseen⟩
        exact ⟨hshown, ⟨hnodup, hseen⟩, hid⟩
  | none =>
      -- The table of what is no class is empty, so that the object may have no properties.
      have hne : t ≠ c.toExpr := by
        rintro rfl
        simp at hclass
      have hnone : [] = OrderedMap.keys (OrderedMap.ofList built) ↔ fields = [] := by
        constructor
        · intro hnil
          refine List.eq_nil_iff_forall_not_mem.mpr fun f hf => ?_
          have hkey : f.name ∈ OrderedMap.keys (OrderedMap.ofList built) :=
            OrderedMap.mem_keys_ofList.mpr (hkeys ▸ List.mem_map_of_mem hf)
          exact absurd (hnil ▸ hkey) List.not_mem_nil
        · rintro rfl
          rw [List.map_eq_nil_iff.mp hkeys]
          rfl
      rw [shows_run_inspect_iff _ _ _ hparse hload (fieldsOfTarget_of_asClass?_eq_none hclass),
        List.map_nil, hnone]
      constructor
      · rintro ⟨hshown, rfl, heq⟩
        exact ⟨.inr ⟨rfl, heq.symm⟩, List.nodup_nil, hshown, by simp⟩
      · rintro ⟨hor, -, hpresented⟩
        obtain ⟨rfl, heq⟩ := hor.resolve_left hne
        exact ⟨hpresented.toShowable, rfl, heq.symm⟩

/-- The node of a parcel. -/
def parcelNode : Node := .object [("weight", .leaf .integer none)] (some ["weight"]) none none

/-- A parcel is shown as it is compiled. -/
theorem run_inspect_shows_parcels :
    ∃ e, parcels.build 64 parcel = .ok parcelNode ∧
      (parcels.visits 64 parcel).get? parcel = some e ∧
      Shows (run parcels [] ["inspect", "app.models:Parcel"]) ["weight"] e.id := by
  have hbuild : parcels.build 64 parcel = .ok parcelNode := rfl
  have hparse : Arguments.parse ["inspect", "app.models:Parcel"] =
      .inspect "app.models:Parcel" := rfl
  obtain ⟨c, fields, e, hrooted, hiff⟩ := run_inspect_shows_iff [] hparse load_parcels hbuild
  obtain ⟨given, hform⟩ := hrooted.form
  have hclass : parcel = c.toExpr := eq_toExpr_of_form hform rfl
  obtain rfl : c = .declared 0 := ClassRef.toExpr_inj hclass.symm
  have hfields : fields = [⟨"weight", .builtin .int, none⟩] :=
    Except.ok.inj (hrooted.fields.symm.trans rfl)
  subst hfields
  have hweight : IsWord "weight".toList := by
    simp [IsWord, IsPlain, Text.isBlank, Markup.isControl]
  have hrows : tableTexts parcels [⟨"weight", .builtin .int, none⟩] =
      [["1", "weight", "int", ""]] := rfl
  have hshowable : Showable parcels parcel [⟨"weight", .builtin .int, none⟩] := by
    refine ⟨by simp [descriptionText?], fun row hrow text htext => ?_, ⟨_, rfl⟩⟩
    obtain rfl := List.mem_singleton.mp (hrows ▸ hrow)
    simp only [List.mem_cons, List.not_mem_nil, or_false] at htext
    rcases htext with rfl | rfl | rfl | rfl <;> exact ⟨_, rfl⟩
  refine ⟨e, hbuild, hrooted.entry, hiff.mpr ⟨.inl hclass, by simp, hshowable, ?_⟩⟩
  simpa using seenName_of_isWord (List.mem_singleton_self _) hweight

/-- A program in which a gift is a parcel or nothing. -/
def gifts : Catalog :=
  (parcels.declare (.synonym "Gift" none (.binary .bitOr (.name "Parcel") (.constant .none)))).2

/-- What the name of gifts stands for. -/
def gift : TypeExpr := .union .bars [parcel, .noneType]

/-- A gift is compiled as the parcel that it is, and shown without data members and under an
identifier of its own. -/
theorem run_inspect_gift :
    let report := run gifts [] ["inspect", "app.models:Gift"]
    ∃ e, gifts.load "app.models:Gift" = .ok gift ∧ gifts.build 64 gift = .ok parcelNode ∧
      (gifts.visits 64 gift).get? parcel = some e ∧
      Shows report [] (gifts.referenceId gift) ∧ gifts.referenceId gift ≠ e.id ∧
      ¬Shows report ["weight"] e.id := by
  have hload : gifts.load "app.models:Gift" = .ok gift := by decide +kernel
  have hparse : Arguments.parse ["inspect", "app.models:Gift"] = .inspect "app.models:Gift" := rfl
  have hiff := fun names id =>
    shows_run_inspect_iff [] names id hparse hload (fieldsOfTarget_of_asClass?_eq_none rfl)
  have htitled : Printable (gifts.qualifiedName gift) := ⟨_, rfl⟩
  have hother : gifts.referenceId gift ≠ gifts.referenceId parcel := by decide +kernel
  refine ⟨⟨0, gifts.referenceId parcel, false⟩, hload, rfl, rfl,
    (hiff _ _).mpr ⟨⟨by simp, by simp [tableTexts], htitled⟩, rfl, rfl⟩, hother, fun hshows => ?_⟩
  obtain ⟨-, hnames, -⟩ := (hiff _ _).mp hshows
  exact absurd hnames (by simp)

end Console

end TypeSchema
