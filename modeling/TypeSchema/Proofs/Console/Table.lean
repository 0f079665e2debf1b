import TypeSchema.Proofs.Console.Plain
import TypeSchema.Proofs.Console.Run
import TypeSchema.Proofs.Declaration.Run
/-!
# The table of data members

The table of the `inspect` command has one row for each data member, unless a cell takes several
lines. The rows with a number are those that start a data member (`listedNames`). The rows are made
if the descriptions are texts (`fieldRows_eq_ok_iff`), and read if their texts can be printed
(`readCells_eq_ok_iff`); the table then lists the names as they are seen in their column
(`listedNames_seenTable`).
-/

namespace TypeSchema.Console

variable {α β : Type} {cat : Catalog} {r : Report}

/-! ## Steps that change nothing -/

/-- The step comes to the same result from every report, and leaves it as it is. -/
def Settled (c : Run α) (result : Except Failure α) : Prop := ∀ r, outcome c r = (result, r)

theorem settled_pure (a : α) : Settled (pure a) (.ok a) := fun _ => rfl

theorem Settled.bind {c : Run α} {f : α → Run β} {x : Except Failure α} {g : α → Except Failure β}
    (hc : Settled c x) (hf : ∀ a, Settled (f a) (g a)) : Settled (c >>= f) (x >>= g) := by
  intro r
  rw [outcome_bind, hc r]
  cases x with
  | ok a => exact hf a r
  | error e => rfl

theorem settled_mapM {f : α → Run β} {g : α → Except Failure β} (h : ∀ a, Settled (f a) (g a))
    (xs : List α) : Settled (xs.mapM f) (xs.mapM g) := by
  induction xs with
  | nil => exact settled_pure []
  | cons x xs ih =>
      rw [List.mapM_cons, List.mapM_cons]
      exact (h x).bind fun _ => ih.bind fun _ => settled_pure _

/-- A step whose success depends on a condition comes to its value or fails. -/
theorem Settled.cases {c : Run α} {x : Except Failure α} {P : Prop} {a : α} (hc : Settled c x)
    (hx : ∀ b, x = .ok b ↔ P ∧ a = b) : (P → ∀ r, outcome c r = (.ok a, r)) ∧ (¬P → Fails c) := by
  constructor
  · intro hP r
    rw [hc r, (hx a).mpr ⟨hP, rfl⟩]
  · intro hP r
    cases hresult : x with
    | ok b => exact absurd ((hx b).mp hresult).1 hP
    | error e => exact ⟨e, by rw [hc r, hresult]⟩

/-- A step that succeeds for some elements succeeds for a list exactly if it succeeds for each. -/
theorem mapM_eq_ok_iff {f : α → Except Failure β} {P : α → Prop} {g : α → β}
    (h : ∀ x y, f x = .ok y ↔ P x ∧ g x = y) {xs : List α} {ys : List β} :
    xs.mapM f = .ok ys ↔ (∀ x ∈ xs, P x) ∧ xs.map g = ys := by
  induction xs generalizing ys with
  | nil => simp [pure, Except.pure]
  | cons x xs ih =>
      rw [List.mapM_cons, bind_eq_ok_iff]
      simp only [bind_eq_ok_iff, h, ih, pure, Except.pure, Except.ok.injEq, List.forall_mem_cons,
        List.map_cons]
      constructor
      · rintro ⟨_, ⟨hx, rfl⟩, _, ⟨hxs, rfl⟩, rfl⟩
        exact ⟨⟨hx, hxs⟩, rfl⟩
      · rintro ⟨⟨hx, hxs⟩, rfl⟩
        exact ⟨_, ⟨hx, rfl⟩, _, ⟨hxs, rfl⟩, rfl⟩

/-! ## Texts of cells -/

/-- The text in the cell of a description, if it can be shown. -/
def descriptionText? : Option Json → Option String
  | none => some ""
  | some (.string text) => some text
  | some value => if countsAsNothing value then some "" else none

/-- What the cell of a description comes to. -/
def describe (d : Option Json) : Except Failure String :=
  (descriptionText? d).elim (.error (.notShown (Node.valueClassName (d.getD .null)))) .ok

theorem settled_descriptionCell (d : Option Json) : Settled (descriptionCell d) (describe d) := by
  intro r
  rcases d with _ | (_ | _ | _ | _ | _ | _) <;> try rfl
  all_goals
    simp only [descriptionCell, describe, descriptionText?]
    split <;> rfl

theorem settled_cell (markup : String) :
    Settled (cell markup) ((Markup.render markup.toList).mapError .markup) := by
  intro r
  rw [cell]
  cases Markup.render markup.toList <;> rfl

/-- What is printed of a text, if it can be printed. -/
def printed (markup : String) : List Char := (Markup.render markup.toList).toOption.getD []

theorem mapError_render_eq_ok_iff {markup : String} {cs : List Char} :
    (Markup.render markup.toList).mapError Failure.markup = .ok cs ↔
      Printable markup ∧ printed markup = cs := by
  unfold Printable printed
  cases Markup.render markup.toList with
  | ok text => simp [Except.mapError, Except.toOption]
  | error e => simp [Except.mapError]

/-! ## Rows -/

/-- The texts of a row, in the order of the columns. -/
def rowTexts (cat : Catalog) (f : SchemaField) (i : Nat) : List String :=
  [toString (i + 1), f.name, typeLabel cat f.type, (descriptionText? f.description).getD ""]

/-- The texts of the table of some data members. -/
def tableTexts (cat : Catalog) (fields : List SchemaField) : List (List String) :=
  fields.zipIdx.map fun p => rowTexts cat p.1 p.2

theorem settled_fieldRows (cat : Catalog) (fields : List SchemaField) :
    Settled (fieldRows cat fields) (fields.zipIdx.mapM fun p =>
      describe p.1.description >>= fun text =>
        .ok [toString (p.2 + 1), p.1.name, typeLabel cat p.1.type, text]) := by
  refine settled_mapM (fun p => ?_) _
  exact (settled_descriptionCell p.1.description).bind fun _ => settled_pure _

/-- The rows of the table are made exactly if all descriptions can be shown. -/
theorem fieldRows_eq_ok_iff {fields : List SchemaField} {rows : List (List String)} :
    (fields.zipIdx.mapM fun p => describe p.1.description >>= fun text =>
      .ok [toString (p.2 + 1), p.1.name, typeLabel cat p.1.type, text]) = .ok rows ↔
      (∀ f ∈ fields, (descriptionText? f.description).isSome) ∧ tableTexts cat fields = rows := by
  have hrow : ∀ (p : SchemaField × Nat) (row : List String),
      (describe p.1.description >>= fun text =>
        .ok [toString (p.2 + 1), p.1.name, typeLabel cat p.1.type, text]) = .ok row ↔
      (descriptionText? p.1.description).isSome ∧ rowTexts cat p.1 p.2 = row := by
    intro p row
    rw [rowTexts, describe]
    cases descriptionText? p.1.description <;> simp [bind, Except.bind]
  have hall : (∀ p ∈ fields.zipIdx, ((descriptionText? p.1.description).isSome = true)) ↔
      ∀ f ∈ fields, (descriptionText? f.description).isSome = true := by
    constructor
    · intro h f hf
      obtain ⟨i, hi, rfl⟩ := List.getElem_of_mem hf
      exact h (fields[i], i) (by simp [List.mem_zipIdx_iff_getElem?, hi])
    · intro h p hp
      exact h p.1 (List.fst_mem_of_mem_zipIdx hp)
  rw [mapM_eq_ok_iff hrow, hall, tableTexts]

/-- What is printed in the cells of some rows. -/
def printedCells (rows : List (List String)) : List (List (List Char)) :=
  rows.map fun row => (List.range columns.length).map fun i => printed (row.getD i "")

theorem settled_readCells (rows : List (List String)) : Settled (readCells rows)
    (((List.range columns.length).mapM fun i => rows.mapM fun row =>
      (Markup.render (row.getD i "").toList).mapError .markup) >>= fun byColumn =>
      .ok ((List.range rows.length).map fun k => byColumn.map fun column => column.getD k [])) :=
  (settled_mapM (fun _ => settled_mapM (fun _ => settled_cell _) _) _).bind fun _ => settled_pure _

/-- The cells are read exactly if all of their texts can be printed. -/
theorem readCells_eq_ok_iff {rows : List (List String)} {cells : List (List (List Char))} :
    (((List.range columns.length).mapM fun i => rows.mapM fun row =>
      (Markup.render (row.getD i "").toList).mapError Failure.markup) >>= fun byColumn =>
      .ok ((List.range rows.length).map fun k => byColumn.map fun column => column.getD k [])) =
      .ok cells ↔
      (∀ i < columns.length, ∀ row ∈ rows, Printable (row.getD i "")) ∧
        printedCells rows = cells := by
  have hcolumn : ∀ (i : Nat) (column : List (List Char)), (rows.mapM fun row =>
      (Markup.render (row.getD i "").toList).mapError Failure.markup) = .ok column ↔
      (∀ row ∈ rows, Printable (row.getD i "")) ∧
        (rows.map fun row => printed (row.getD i "")) = column :=
    fun i column => mapM_eq_ok_iff fun row cs => mapError_render_eq_ok_iff
  have htransposed : ((List.range rows.length).map fun k =>
      ((List.range columns.length).map fun i => rows.map fun row => printed (row.getD i "")).map
        fun column => column.getD k []) = printedCells rows := by
    refine List.ext_getElem (by simp [printedCells]) fun k hk hk' => ?_
    have hrow : k < rows.length := by simpa using hk
    simp [printedCells, List.getD_eq_getElem?_getD, hrow]
  rw [bind_eq_ok_iff]
  simp only [mapM_eq_ok_iff hcolumn, List.mem_range]
  constructor
  · rintro ⟨_, ⟨hall, rfl⟩, heq⟩
    exact ⟨hall, htransposed ▸ Except.ok.inj heq⟩
  · rintro ⟨hall, rfl⟩
    exact ⟨_, ⟨hall, rfl⟩, congrArg Except.ok htransposed⟩

/-- The cells of a table are the texts of its rows. -/
theorem forall_cells_iff {P : String → Prop} {fields : List SchemaField} :
    (∀ i < columns.length, ∀ row ∈ tableTexts cat fields, P (row.getD i "")) ↔
      ∀ row ∈ tableTexts cat fields, ∀ text ∈ row, P text := by
  constructor
  · intro h row hrow
    have hcell := fun i hi => h i hi row hrow
    obtain ⟨p, -, rfl⟩ := List.mem_map.mp hrow
    simp only [rowTexts, List.forall_mem_cons]
    exact ⟨hcell 0 (by decide), hcell 1 (by decide), hcell 2 (by decide), hcell 3 (by decide),
      by simp⟩
  · intro h i hi row hrow
    obtain ⟨p, -, rfl⟩ := List.mem_map.mp hrow
    have hi : i < (rowTexts cat p.1 p.2).length := hi
    rw [List.getD_eq_getElem?_getD, List.getElem?_eq_getElem hi, Option.getD_some]
    exact h _ hrow _ (List.getElem_mem hi)

/-! ## Names that are listed -/

/-- The names that a table lists: a row with a number starts a data member. -/
def listedNames (rows : List (List String)) : List String :=
  (rows.filter fun row => row.headD "" ≠ "").map fun row => row.getD 1 ""

@[simp] theorem listedNames_append (rows more : List (List String)) :
    listedNames (rows ++ more) = listedNames rows ++ listedNames more := by
  simp [listedNames]

theorem listedNames_flatMap (f : α → List (List String)) (xs : List α) :
    listedNames (xs.flatMap f) = xs.flatMap fun x => listedNames (f x) := by
  simp only [listedNames, List.filter_flatMap, List.map_flatMap]

theorem isPlain_of_isDigit {c : Char} (h : c.isDigit = true) : IsPlain c := by
  have hrange : 48 ≤ c.toNat ∧ c.toNat ≤ 57 := Char.isDigit_iff_toNat.mp h
  refine ⟨?_, ?_, ?_⟩
  · simp only [Text.isBlank, Bool.or_eq_false_iff, Bool.and_eq_false_iff, decide_eq_false_iff_not,
      beq_eq_false_iff_ne]
    omega
  · simp only [List.mem_cons, List.not_mem_nil, or_false, not_or]
    refine ⟨?_, ?_, ?_⟩ <;> (rintro rfl; exact absurd h (by decide))
  · simp only [Markup.isControl, Bool.or_eq_false_iff, beq_eq_false_iff_ne]
    omega

/-- Numbers are words. -/
theorem isWord_toString (n : Nat) : IsWord (toString n).toList := by
  rw [Nat.toString_eq_repr, Nat.toList_repr]
  exact ⟨Nat.toDigits_ne_nil, fun c hc =>
    isPlain_of_isDigit (Nat.isDigit_of_mem_toDigits (by decide) (by decide) hc)⟩

theorem printed_of_isWord {text : String} (h : IsWord text.toList) :
    printed text = text.toList := by
  rw [printed, render_plain h.2]
  rfl

theorem trim_ne_nil {cs : List Char} {c : Char} (hmem : c ∈ cs) (hc : Text.isBlank c = false) :
    Text.trim cs ≠ [] := by
  have hleft : ∀ ds : List Char, Text.trimLeft ds = [] ↔ ∀ d ∈ ds, Text.isBlank d = true := by
    intro ds
    rw [Text.trimLeft, List.dropWhile_eq_nil_iff]
  intro hnil
  rw [Text.trim, Text.trimRight, List.reverse_eq_nil_iff, hleft] at hnil
  cases hcs : Text.trimLeft cs with
  | nil => exact Bool.eq_false_iff.mp hc ((hleft cs).mp hcs c hmem)
  | cons d ds =>
      have hd : Text.isBlank d = true := hnil d (by simp [hcs])
      have hhead := List.head?_dropWhile_not Text.isBlank cs
      rw [show cs.dropWhile Text.isBlank = d :: ds from hcs] at hhead
      simp [hd] at hhead

/-- Something is seen of a word, even if it is cut. -/
theorem trim_truncate_ne_nil {cs : List Char} (h : IsWord cs) (width : Nat) :
    Text.trim (Screen.truncate width cs) ≠ [] := by
  unfold Screen.truncate
  split
  · exact trim_ne_nil (c := '…') (by simp) (by decide)
  · exact trim_ne_nil (List.getLast_mem h.1) (h.2 _ (List.getLast_mem h.1)).1

theorem le_foldl_max {xs : List Nat} {x : Nat} (hmem : x ∈ xs) (start : Nat) :
    x ≤ xs.foldl max start := by
  have hstart : ∀ (ys : List Nat) start, start ≤ ys.foldl max start := by
    intro ys
    induction ys with
    | nil => exact fun start => Nat.le_refl start
    | cons y ys ih => exact fun start => Nat.le_trans (Nat.le_max_left start y) (ih _)
  induction xs generalizing start with
  | nil => exact absurd hmem List.not_mem_nil
  | cons y ys ih =>
      rcases List.mem_cons.mp hmem with rfl | hmem
      · exact Nat.le_trans (Nat.le_max_right start x) (hstart ys _)
      · exact ih hmem _

/-- Rows of which only the first has a number list one name. -/
theorem listedNames_map_range {row : Nat → List String} (h : ∀ i, (row i).headD "" ≠ "" ↔ i = 0)
    (height : Nat) :
    listedNames ((List.range (height + 1)).map row) = [(row 0).getD 1 ""] := by
  have hrest : (((List.range height).map Nat.succ).map row).filter
      (fun r => decide (r.headD "" ≠ "")) = [] := by
    simp only [List.filter_eq_nil_iff, List.mem_map, decide_eq_true_eq]
    rintro _ ⟨_, ⟨i, -, rfl⟩, rfl⟩
    exact fun hi => absurd ((h _).mp hi) (Nat.succ_ne_zero i)
  rw [listedNames, List.range_succ_eq_map, List.map_cons, List.filter_cons, hrest,
    if_pos (decide_eq_true ((h 0).mpr rfl))]
  rfl

/-- A row whose number is a word lists one name: what is seen on the first line of its cell. -/
theorem listedNames_seenRows {number : List Char} (h : IsWord number) (width second : Nat)
    (widths : List Nat) (name : List Char) (cells : List (List Char)) :
    listedNames (Screen.seenRows (width :: second :: widths) (number :: name :: cells)) =
      [String.ofList (Text.trim ((Screen.cellLines second name).getD 0 []))] := by
  have hnumber : ∀ k, String.ofList (Text.trim ((Screen.cellLines width number).getD k [])) ≠ "" ↔
      k = 0 := by
    intro k
    rw [Screen.cellLines_word h]
    cases k with
    | zero => simpa using trim_truncate_ne_nil h width
    | succ k => simp [Text.trim, Text.trimRight, Text.trimLeft]
  have hheight : 1 ≤ ((((width :: second :: widths).zip (number :: name :: cells)).map
      fun p => Screen.cellLines p.1 p.2).map List.length).foldl max 0 := by
    refine le_foldl_max ?_ _
    simp [Screen.cellLines_word h]
  obtain ⟨height, hsucc⟩ := Nat.exists_eq_add_of_le' hheight
  rw [Screen.seenRows]
  simp only [hsucc]
  refine (listedNames_map_range ?_ height).trans rfl
  exact hnumber

/-- What is seen of a name in the column of some names. -/
def seenName (names : List String) (name : String) : String :=
  let width := (names.map fun n => Screen.cellWidth (printed n)).foldl max "Field".length
  String.ofList (Text.trim ((Screen.cellLines width (printed name)).getD 0 []))

/-- The table lists the names as they are seen. -/
theorem listedNames_seenTable (fields : List SchemaField) :
    listedNames (Screen.seenTable columns (printedCells (tableTexts cat fields))) =
      fields.map fun f => seenName (fields.map (·.name)) f.name := by
  have hcells : printedCells (tableTexts cat fields) = fields.zipIdx.map fun p =>
      (rowTexts cat p.1 p.2).map printed := by
    simp only [printedCells, tableTexts, List.map_map]
    rfl
  have hnames : (fields.zipIdx.map fun p => Screen.cellWidth (printed p.1.name)) =
      (fields.map (·.name)).map fun n => Screen.cellWidth (printed n) := by
    rw [List.map_map, ← List.zipIdx_map_fst 0 fields, List.map_map]
    simp
  have hwidths : ∃ more, Screen.seenTable columns (printedCells (tableTexts cat fields)) =
      (printedCells (tableTexts cat fields)).flatMap (Screen.seenRows (4 ::
        ((fields.map (·.name)).map fun n => Screen.cellWidth (printed n)).foldl max "Field".length
        :: more)) := by
    rw [← hnames, hcells]
    simp only [Screen.seenTable, columns, List.zipIdx_cons, List.map_cons, List.map_map]
    exact ⟨_, rfl⟩
  -- How wide the other columns are has no part in how the names are seen.
  obtain ⟨more, hmore⟩ := hwidths
  have hrow : ∀ p : SchemaField × Nat, listedNames (Screen.seenRows (4 ::
      ((fields.map (·.name)).map fun n => Screen.cellWidth (printed n)).foldl max "Field".length
      :: more) ((rowTexts cat p.1 p.2).map printed)) =
      [seenName (fields.map (·.name)) p.1.name] := by
    intro p
    refine listedNames_seenRows ?_ _ _ _ _ _
    rw [printed_of_isWord (isWord_toString _)]
    exact isWord_toString _
  rw [hmore, hcells, listedNames_flatMap, List.flatMap_map]
  simp only [hrow, ← List.map_eq_flatMap]
  conv_rhs => rw [← List.zipIdx_map_fst 0 fields, List.map_map]
  simp

/-- A word is seen as it is in a column of names in which it stands. -/
theorem seenName_of_isWord {names : List String} {name : String} (hmem : name ∈ names)
    (h : IsWord name.toList) : seenName names name = name := by
  have hwidth : Text.Cells.width name.toList ≤
      (names.map fun n => Screen.cellWidth (printed n)).foldl max "Field".length := by
    refine le_foldl_max (List.mem_map.mpr ⟨name, hmem, ?_⟩) _
    rw [printed_of_isWord h, Screen.cellWidth_word h]
  have htruncate : Screen.truncate
      ((names.map fun n => Screen.cellWidth (printed n)).foldl max "Field".length) name.toList =
      name.toList := by
    rw [Screen.truncate, if_neg (Nat.not_lt.mpr hwidth)]
  rw [seenName, printed_of_isWord h]
  simp only [Screen.cellLines_word h, htruncate, List.getD_cons_zero]
  rw [Text.trim_eq_self fun c hc => (h.2 c hc).1, String.ofList_toList]

end TypeSchema.Console
