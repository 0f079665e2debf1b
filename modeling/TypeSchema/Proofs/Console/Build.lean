import TypeSchema.Proofs.Console.Run
import TypeSchema.Proofs.JsonText
import TypeSchema.Proofs.Validity
/-!
# What the `build` command leaves behind

The command loads a type, makes its document, checks it if that is asked for, shows it, and saves it
if that is asked for. Every part of it may fail, and so may the messages in between: a text with a
tag that closes nothing cannot be printed. The file is written before the last message.

`run_build_cases` lists the three ways in which the command ends. It succeeds only if it delivers
the document that can be made, and it is all or nothing exactly if what it has to tell of such a
document can be printed (`run_build_allOrNothing_iff`).
-/

namespace TypeSchema.Console

variable {cat : Catalog} {directories : List Path} {options : BuildOptions} {t : TypeExpr}
  {doc : Json} {r : Report}

/-! ## What a document needs -/

/-- The document that the options ask for. -/
def document (cat : Catalog) (options : BuildOptions) (t : TypeExpr) : Except SchemaError Json :=
  if options.responseFormat then cat.responseFormat none options.strict options.limit t
  else cat.jsonSchema options.strict options.limit t

/-- The target names a type, the type is compiled to a document, and if that is asked for, its
schema is a JSON Schema. -/
structure Makes (cat : Catalog) (options : BuildOptions) (t : TypeExpr) (doc : Json) : Prop where
  loads : cat.load options.target = .ok t
  compiles : document cat options t = .ok doc
  valid : options.check = true →
    ∃ schema, cat.jsonSchema options.strict options.limit t = .ok schema ∧ schema.isSchema = true

/-- The message that tells which type was loaded. -/
abbrev loadedMessage (cat : Catalog) (t : TypeExpr) : String :=
  "Loaded type: " ++ cat.qualifiedName t

/-- The message that tells where the document was saved. -/
abbrev savedMessage (path : Path) : String := "Schema saved to: " ++ path.display

theorem document_eq_ok_iff : document cat options t = .ok doc ↔
    ∃ schema, cat.jsonSchema options.strict options.limit t = .ok schema ∧
      doc = if options.responseFormat then
        Catalog.envelope (cat.schemaName none t) options.strict schema else schema := by
  unfold document
  split
  · rw [Catalog.responseFormat, bind_eq_ok_iff]
    exact exists_congr fun schema => and_congr_right fun _ =>
      ⟨fun h => (Except.ok.inj h).symm, fun h => congrArg Except.ok h.symm⟩
  · simp [eq_comm]

theorem outcome_documents {schema : Json}
    (h : cat.jsonSchema options.strict options.limit t = .ok schema) :
    outcome (documents cat options t) r = (.ok (if options.responseFormat then
      Catalog.envelope (cat.schemaName none t) options.strict schema else schema, schema), r) := by
  rw [documents, h]
  rfl

theorem fails_documents {e : SchemaError}
    (h : cat.jsonSchema options.strict options.limit t = .error e) :
    Fails (documents cat options t) := by
  intro r
  exact ⟨.schema e, by rw [documents, h]; rfl⟩

/-! ## The parts of the command -/

theorem prints_heading : Prints (heading "schema-forge - Build Schema") :=
  prints_print ⟨_, rfl⟩

theorem prints_mode (strict : Bool) :
    Prints (inform ("Mode: [bold]" ++ (if strict then "strict" else "permissive") ++ "[/bold]")) :=
  prints_print (by cases strict <;> exact ⟨_, rfl⟩)

theorem prints_valid : Prints (succeed "Schema is valid JSON Schema (draft 2020-12)") :=
  prints_print ⟨_, rfl⟩

/-- What the command does with a document: it shows it and saves it if that is asked for. -/
def deliver (directories : List Path) (options : BuildOptions) (doc : Json) : Run Unit := do
  modify fun r => { r with document := some doc }
  match options.output with
  | none => return
  | some path =>
    let path := Path.ofString path
    match path.check directories with
    | .error cause => throw (.path cause)
    | .ok () =>
      modify fun r => { r with files := r.files ++ [(path, doc.toPage)] }
      succeed ("Schema saved to: " ++ path.display)

/-- A document that can be made is delivered, unless the name of its type cannot be told. -/
theorem outcome_build_of_makes (directories : List Path) (h : Makes cat options t doc)
    (hloaded : Tellable (loadedMessage cat t)) :
    ∃ lines, outcome (build cat directories options) r =
      outcome (deliver directories options doc) (r.withLines lines) := by
  obtain ⟨schema, hschema, hdoc⟩ := document_eq_ok_iff.mp h.compiles
  obtain ⟨l₁, h₁⟩ := prints_heading r
  obtain ⟨l₂, h₂⟩ := prints_succeed hloaded (r.withLines l₁)
  obtain ⟨l₃, h₃⟩ := prints_mode options.strict (r.withLines l₂)
  rw [build, outcome_bind_ok h₁, outcome_bind_ok (outcome_load h.loads), outcome_bind_ok h₂,
    Report.withLines_withLines, outcome_bind_ok h₃, outcome_bind_ok (outcome_documents hschema),
    ← hdoc]
  by_cases hcheck : options.check = true
  · obtain ⟨schema', hschema', hvalid⟩ := h.valid hcheck
    obtain rfl := Except.ok.inj (hschema.symm.trans hschema')
    obtain ⟨l₄, h₄⟩ := prints_valid (r.withLines l₃)
    simp only [if_pos hcheck, if_pos hvalid]
    exact ⟨l₄, outcome_bind_ok h₄⟩
  · simp only [if_neg hcheck]
    exact ⟨l₃, rfl⟩

/-- If no document can be made, or the name of the type cannot be told, the command fails and leaves
nothing but lines. -/
theorem outcome_build_error (directories : List Path)
    (h : ∀ t doc, Makes cat options t doc → ¬Tellable (loadedMessage cat t)) :
    ∃ e lines, outcome (build cat directories options) r = (.error e, r.withLines lines) := by
  obtain ⟨l₁, h₁⟩ := prints_heading r
  rw [build, outcome_bind_ok h₁]
  cases hload : cat.load options.target with
  | error e =>
      obtain ⟨e, he⟩ := fails_load hload (r.withLines l₁)
      exact ⟨e, l₁, outcome_bind_error he⟩
  | ok t =>
      rw [outcome_bind_ok (outcome_load hload)]
      by_cases hloaded : Tellable (loadedMessage cat t)
      · obtain ⟨l₂, h₂⟩ := prints_succeed hloaded (r.withLines l₁)
        obtain ⟨l₃, h₃⟩ := prints_mode options.strict (r.withLines l₂)
        rw [outcome_bind_ok h₂, Report.withLines_withLines, outcome_bind_ok h₃]
        cases hschema : cat.jsonSchema options.strict options.limit t with
        | error e =>
            obtain ⟨e, he⟩ := fails_documents hschema (r.withLines l₃)
            exact ⟨e, l₃, outcome_bind_error he⟩
        | ok schema =>
            have hvalid : options.check = true ∧ ¬schema.isSchema = true := by
              by_contra hvalid
              refine h t _ ⟨hload, document_eq_ok_iff.mpr ⟨schema, hschema, rfl⟩,
                fun hcheck => ?_⟩ hloaded
              exact ⟨schema, hschema, by_contra fun hnot => hvalid ⟨hcheck, hnot⟩⟩
            rw [Report.withLines_withLines, outcome_bind_ok (outcome_documents hschema)]
            simp only [if_pos hvalid.1, if_neg hvalid.2]
            exact ⟨.invalid, l₃, rfl⟩
      · obtain ⟨e, he⟩ := fails_succeed hloaded (r.withLines l₁)
        exact ⟨e, l₁, outcome_bind_error he⟩

/-- What is saved of a document, if that is asked for. -/
def saved (options : BuildOptions) (doc : Json) : List (Path × String) :=
  options.output.toList.map fun text => (Path.ofString text, doc.toPage)

/-- The file at the path that is given, if one is, can be written. -/
def Writable (directories : List Path) (options : BuildOptions) : Prop :=
  ∀ text ∈ options.output, (Path.ofString text).check directories = .ok ()

/-- The message that tells where the document was saved can be printed. -/
def SavedTellable (options : BuildOptions) : Prop :=
  ∀ text ∈ options.output, Tellable (savedMessage (Path.ofString text))

/-- A document is shown and saved. Only the message that comes after may fail. -/
theorem outcome_deliver (hwritable : Writable directories options) (doc : Json) (r : Report) :
    ∃ result lines, outcome (deliver directories options doc) r =
        (result, { r with document := some doc, files := r.files ++ saved options doc, lines }) ∧
      (SavedTellable options ↔ result = .ok ()) := by
  rw [deliver, outcome_bind_ok (outcome_modify _)]
  cases houtput : options.output with
  | none => exact ⟨.ok (), r.lines, by simp [saved, houtput], by simp [SavedTellable, houtput]⟩
  | some text =>
      have hcheck : (Path.ofString text).check directories = .ok () := hwritable text houtput
      simp only [hcheck]
      rw [outcome_bind_ok (outcome_modify _)]
      have hsaved : saved options doc = [(Path.ofString text, doc.toPage)] := by
        rw [saved, houtput]
        rfl
      have htellable : SavedTellable options ↔ Tellable (savedMessage (Path.ofString text)) := by
        simp [SavedTellable, houtput]
      rw [hsaved, htellable]
      by_cases htold : Tellable (savedMessage (Path.ofString text))
      · obtain ⟨lines, hlines⟩ := prints_succeed htold
          { r with document := some doc, files := r.files ++ [(Path.ofString text, doc.toPage)] }
        exact ⟨.ok (), lines, hlines, by simp [htold]⟩
      · obtain ⟨e, he⟩ := fails_succeed htold
          { r with document := some doc, files := r.files ++ [(Path.ofString text, doc.toPage)] }
        exact ⟨.error e, r.lines, he, by simp [htold]⟩

/-! ## The command as a whole -/

/-- A document was made, and it is what is shown. With a path, it is what is read of the only file
that was written; without one, no file was. -/
def Delivered (cat : Catalog) (options : BuildOptions) (report : Report) : Prop :=
  ∃ t doc, Makes cat options t doc ∧ report.document = some doc ∧
    report.files.map Prod.fst = options.output.toList.map Path.ofString ∧
    ∀ file ∈ report.files, Json.parse file.2 = some doc

/-- The command succeeds exactly if a document can be made. If it succeeds, the document is
delivered, and if not, nothing is left. -/
structure AllOrNothing (cat : Catalog) (options : BuildOptions) (report : Report) : Prop where
  succeeds : report.exitCode = 0 ↔ ∃ t doc, Makes cat options t doc
  delivers : report.exitCode = 0 → Delivered cat options report
  leavesNothing : report.exitCode = 1 → report.files = []

theorem Makes.eq_of_loads {t' : TypeExpr} {doc' : Json} (h : Makes cat options t doc)
    (h' : Makes cat options t' doc') : t = t' := Except.ok.inj (h.loads.symm.trans h'.loads)

/-- What is saved is read back as the document. -/
theorem delivered_saved (h : Makes cat options t doc) (lines : List String) :
    Delivered cat options { exitCode := 0, files := saved options doc, lines, document := some doc,
                            rows := [] } := by
  refine ⟨t, doc, h, rfl, by rw [saved, List.map_map]; rfl, ?_⟩
  simp only [saved, List.forall_mem_map]
  exact fun _ _ => Json.parse_toPage doc

variable {arguments : List String}

/-- The three ways in which the command ends. -/
theorem run_build_cases (cat : Catalog) (hparse : Arguments.parse arguments = .build options)
    (hwritable : Writable directories options) :
    (∃ t doc lines, Makes cat options t doc ∧ Tellable (loadedMessage cat t) ∧
      SavedTellable options ∧ run cat directories arguments =
        { exitCode := 0, files := saved options doc, lines, document := some doc, rows := [] }) ∨
    (∃ t doc lines, Makes cat options t doc ∧ Tellable (loadedMessage cat t) ∧
      ¬SavedTellable options ∧ run cat directories arguments =
        { exitCode := 1, files := saved options doc, lines, document := none, rows := [] }) ∨
    ((∀ t doc, Makes cat options t doc → ¬Tellable (loadedMessage cat t)) ∧
      ∃ lines, run cat directories arguments =
        { exitCode := 1, files := [], lines, document := none, rows := [] }) := by
  have hrun : run cat directories arguments = finish cat (build cat directories options) := by
    rw [run, hparse]
  rw [hrun]
  by_cases h : ∃ t doc, Makes cat options t doc ∧ Tellable (loadedMessage cat t)
  · obtain ⟨t, doc, hmakes, hloaded⟩ := h
    obtain ⟨first, hbuild⟩ := outcome_build_of_makes (r := .blank) directories hmakes hloaded
    obtain ⟨result, lines, hdeliver, htold⟩ :=
      outcome_deliver hwritable doc (.withLines .blank first)
    rw [hdeliver] at hbuild
    cases result with
    | ok u => exact .inl ⟨t, doc, lines, hmakes, hloaded, htold.mpr rfl, finish_of_ok hbuild⟩
    | error e =>
        obtain ⟨lines, hfinish⟩ := finish_of_error cat hbuild
        exact .inr (.inl ⟨t, doc, lines, hmakes, hloaded, by simp [htold], hfinish⟩)
  · have hnot : ∀ t doc, Makes cat options t doc → ¬Tellable (loadedMessage cat t) :=
      fun t doc hmakes hloaded => h ⟨t, doc, hmakes, hloaded⟩
    obtain ⟨e, lines, hbuild⟩ := outcome_build_error (r := .blank) directories hnot
    exact .inr (.inr ⟨hnot, finish_of_error cat hbuild⟩)

/-- The command succeeds only by delivering a document. It is all or nothing unless a document can
be made and one of the messages that tell what was loaded and where it was saved cannot be
printed. -/
theorem run_build_allOrNothing_iff (hparse : Arguments.parse arguments = .build options)
    (hwritable : Writable directories options) :
    ((run cat directories arguments).exitCode = 0 ∧
        Delivered cat options (run cat directories arguments) ∨
      (run cat directories arguments).exitCode = 1) ∧
    (AllOrNothing cat options (run cat directories arguments) ↔ ∀ t doc,
      Makes cat options t doc → Tellable (loadedMessage cat t) ∧ SavedTellable options) := by
  rcases run_build_cases cat hparse hwritable with
    ⟨t, doc, lines, hmakes, hloaded, hsaved, hrun⟩ |
    ⟨t, doc, lines, hmakes, hloaded, hsaved, hrun⟩ | ⟨hnot, lines, hrun⟩
  · have hdelivered := delivered_saved hmakes lines
    rw [hrun]
    refine ⟨.inl ⟨rfl, hdelivered⟩, ⟨fun _ t' doc' hmakes' => ?_, fun _ => ?_⟩⟩
    · exact ⟨hmakes.eq_of_loads hmakes' ▸ hloaded, hsaved⟩
    · exact ⟨iff_of_true rfl ⟨t, doc, hmakes⟩, fun _ => hdelivered, by simp⟩
  · rw [hrun]
    refine ⟨.inr rfl, iff_of_false (fun hall => ?_) fun htold => hsaved (htold t doc hmakes).2⟩
    exact absurd (hall.succeeds.mpr ⟨t, doc, hmakes⟩) (by simp)
  · rw [hrun]
    refine ⟨.inr rfl, fun hall t doc hmakes => ?_, fun htold => ⟨?_, by simp, fun _ => rfl⟩⟩
    · exact absurd (hall.succeeds.mpr ⟨t, doc, hmakes⟩) (by simp)
    · refine iff_of_false (by simp) ?_
      rintro ⟨t, doc, hmakes⟩
      exact hnot t doc hmakes (htold t doc hmakes).1

/-- A program that declares a class of parcels, which have a weight. -/
def parcels : Catalog :=
  let declared := (Catalog.empty.declare (.cls .plain (.ofName "Parcel" none) [])).2
  (declared.declare (.register (.name "Parcel") [.field "weight" (.name "int") none] false)).2

/-- The class of parcels. -/
def parcel : TypeExpr := (ClassRef.declared 0).toExpr

/-- What is written for the weight of a parcel. -/
def weightSchema : Json := .object [("type", .string "integer")]

/-- What is written for a parcel. -/
def parcelSchema : Json :=
  .object [("type", .string "object"), ("properties", .object [("weight", weightSchema)]),
    ("required", .ofStrings ["weight"]), ("additionalProperties", .bool false)]

/-- The arguments that ask for the checked document of parcels in a file. -/
def parcelArguments (output : String) : List String :=
  ["build", "app.models:Parcel", "--strict", "--check", "--response-format", "--output", output]

/-- The options that the arguments are read as. -/
def parcelOptions (output : String) : BuildOptions :=
  { target := "app.models:Parcel", strict := true, output := some output, limit := 64,
    responseFormat := true, check := true }

theorem load_parcels : parcels.load "app.models:Parcel" = .ok parcel := by decide +kernel

theorem tellable_parcel : Tellable (loadedMessage parcels parcel) := ⟨_, rfl⟩

theorem jsonSchema_parcels : parcels.jsonSchema true 64 parcel = .ok parcelSchema := rfl

theorem isSchema_parcelSchema : parcelSchema.isSchema = true := by
  have hdeclared : parcels.Declared := .declare _ (.declare _ .empty)
  obtain ⟨n, hn, -⟩ := bind_eq_ok_iff.mp jsonSchema_parcels
  obtain ⟨doc, -, hdoc, hgrammar⟩ := Catalog.exists_document hdeclared.distinctMembers true hn
  obtain rfl := Except.ok.inj (jsonSchema_parcels.symm.trans hdoc)
  have hweight : weightSchema.Described := by
    refine Json.described_iff.mpr ⟨isTextual_none, ?_⟩
    rintro v (hv | hv | hv | hv) <;> simp at *
  refine hgrammar.isSchema_iff.mpr (Json.described_iff.mpr ⟨isTextual_none, ?_⟩)
  intro v hv
  cases hv with
  | items hmem => simp at hmem
  | property hmem hv =>
      obtain rfl : _ = [("weight", weightSchema)] := by simpa using hmem
      obtain ⟨-, rfl⟩ : _ = "weight" ∧ v = weightSchema := by simpa using hv
      exact hweight
  | definition hmem => simp at hmem
  | alternative hmem => simp at hmem

theorem makes_parcels (output : String) : Makes parcels (parcelOptions output) parcel
    (Catalog.envelope "Parcel" true parcelSchema) where
  loads := load_parcels
  compiles := rfl
  valid := fun _ => ⟨parcelSchema, jsonSchema_parcels, isSchema_parcelSchema⟩

/-- The checked document of parcels is saved in the directory `out`. -/
theorem run_build_allOrNothing_parcels :
    let report := run parcels [] (parcelArguments "out/parcel.json")
    AllOrNothing parcels (parcelOptions "out/parcel.json") report ∧ report.exitCode = 0 := by
  have hwritable : Writable [] (parcelOptions "out/parcel.json") := by
    rintro text ⟨⟩
    rfl
  have hsaved : SavedTellable (parcelOptions "out/parcel.json") := by
    rintro text ⟨⟩
    exact ⟨_, rfl⟩
  have hparse : Arguments.parse (parcelArguments "out/parcel.json") =
      .build (parcelOptions "out/parcel.json") := rfl
  have hall : AllOrNothing parcels _ _ :=
    (run_build_allOrNothing_iff hparse hwritable).2.mpr fun t doc h =>
      ⟨(makes_parcels "out/parcel.json").eq_of_loads h ▸ tellable_parcel, hsaved⟩
  exact ⟨hall, hall.succeeds.mpr ⟨_, _, makes_parcels _⟩⟩

/-- The document is made and saved, and then the command fails, since the path looks like a tag that
closes nothing. -/
theorem run_build_saved_untold :
    let report := run parcels [] (parcelArguments "a[/b].json")
    Writable [] (parcelOptions "a[/b].json") ∧
      (∃ t doc, Makes parcels (parcelOptions "a[/b].json") t doc ∧ report.exitCode = 1 ∧
        report.files = [(Path.ofString "a[/b].json", doc.toPage)]) ∧
      ¬AllOrNothing parcels (parcelOptions "a[/b].json") report := by
  have hwritable : Writable [] (parcelOptions "a[/b].json") := by
    rintro text ⟨⟩
    rfl
  have hsaved : ¬SavedTellable (parcelOptions "a[/b].json") := by
    intro htold
    obtain ⟨printed, hprinted⟩ := htold "a[/b].json" rfl
    cases hprinted
  have hparse : Arguments.parse (parcelArguments "a[/b].json") =
      .build (parcelOptions "a[/b].json") := rfl
  rcases run_build_cases parcels hparse hwritable with
    ⟨_, _, _, _, _, htold, _⟩ | ⟨t, doc, lines, hmakes, _, _, hrun⟩ | ⟨hnot, _⟩
  · exact absurd htold hsaved
  · rw [hrun]
    refine ⟨hwritable, ⟨t, doc, hmakes, rfl, rfl⟩, fun hall => ?_⟩
    exact absurd (hall.leavesNothing rfl) (by simp [saved, parcelOptions])
  · exact absurd tellable_parcel (hnot _ _ (makes_parcels _))

end TypeSchema.Console
