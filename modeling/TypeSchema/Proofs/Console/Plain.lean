import Mathlib.Data.List.TakeWhile
import TypeSchema.Console.Command
import TypeSchema.Proofs.Console.Unmarked
/-!
# Plain text on the screen

A text that holds nothing the screen treats in a way of its own is printed and seen as it is. A
*word* is such a text: it has no blanks, brackets, backslashes, colons or control characters. A cell
of a table shows a word on one line, cut only where a column has a fixed width.
-/

namespace TypeSchema

namespace Text

variable {cs : List Char}

theorem splitAt_eq_singleton {isSeparator : Char → Bool} (h : ∀ c ∈ cs, isSeparator c = false) :
    splitAt isSeparator cs = [cs] := by
  induction cs with
  | nil => rfl
  | cons c cs ih =>
      rw [splitAt, h c List.mem_cons_self, ih fun d hd => h d (List.mem_cons_of_mem _ hd)]
      rfl

theorem trimLeft_eq_self {c : Char} (h : isBlank c = false) : trimLeft (c :: cs) = c :: cs := by
  simp [trimLeft, h]

theorem trimRight_eq_self {c : Char} (hlast : cs.getLast? = some c) (h : isBlank c = false) :
    trimRight cs = cs := by
  obtain ⟨before, rfl⟩ := List.getLast?_eq_some_iff.mp hlast
  simp [trimRight, trimLeft, h]

/-- A text without blanks has none around it. -/
theorem trim_eq_self (h : ∀ c ∈ cs, isBlank c = false) : trim cs = cs := by
  have hleft : ∀ ds : List Char, (∀ c ∈ ds, isBlank c = false) → trimLeft ds = ds := by
    intro ds hds
    cases ds with
    | nil => rfl
    | cons d ds => exact trimLeft_eq_self (hds d List.mem_cons_self)
  rw [trim, trimRight, hleft cs h, hleft cs.reverse (by simpa using h), List.reverse_reverse]

/-- A text without line breaks is one line. -/
theorem lines_eq_singleton (hne : cs ≠ []) (h : ∀ c ∈ cs, isLineBreak c = false) :
    lines cs = [cs] := by
  induction cs with
  | nil => exact absurd rfl hne
  | cons c cs ih =>
      have hc := h c List.mem_cons_self
      have hcr : c ≠ '\r' := by
        rintro rfl
        exact absurd hc (by decide)
      cases cs with
      | nil =>
          unfold lines
          split <;> simp_all
      | cons d ds =>
          have hd := h d (List.mem_cons_of_mem _ List.mem_cons_self)
          have hds := ih (by simp) fun e he => h e (List.mem_cons_of_mem _ he)
          rw [lines.eq_def]
          split
          · next heq => exact absurd heq (by simp)
          · next heq => exact absurd (List.cons.inj heq).1 hcr
          · next heq =>
              obtain ⟨rfl, rfl⟩ := List.cons.inj heq
              simp [hc, hds, hd]

end Text

namespace Console

/-! ## Words -/

/-- The character is printed and seen as it is, wherever it stands. -/
def IsPlain (c : Char) : Prop :=
  Text.isBlank c = false ∧ c ∉ ['[', '\\', ':'] ∧ Markup.isControl c = false

instance (c : Char) : Decidable (IsPlain c) := inferInstanceAs (Decidable (_ ∧ _ ∧ _))

/-- A text of plain characters, at least one. -/
def IsWord (cs : List Char) : Prop := cs ≠ [] ∧ ∀ c ∈ cs, IsPlain c

instance (cs : List Char) : Decidable (IsWord cs) := inferInstanceAs (Decidable (_ ∧ _))

variable {cs : List Char}

theorem IsPlain.isLineBreak {c : Char} (h : IsPlain c) : Text.isLineBreak c = false :=
  Bool.eq_false_iff.mpr fun hbreak =>
    Bool.eq_false_iff.mp h.1 (Text.isBlank_of_isLineBreak hbreak)

theorem IsPlain.ne_of_isBlank {c d : Char} (h : IsPlain c) (hd : Text.isBlank d = true) :
    c ≠ d := by
  rintro rfl
  exact Bool.eq_false_iff.mp h.1 hd

theorem notMem_of_isPlain {d : Char} (h : ∀ c ∈ cs, IsPlain c) (hd : ¬IsPlain d) : d ∉ cs :=
  fun hmem => hd (h d hmem)

theorem IsPlain.isMark {c : Char} (h : IsPlain c) : Text.isMark c = false := by
  simpa [Text.isMark, and_assoc] using h.2.1

/-- There is no markup in plain text. -/
theorem unmarked_of_isPlain (h : ∀ c ∈ cs, IsPlain c) : Markup.Unmarked cs :=
  Markup.unmarked_of_plain fun c hc => ⟨(h c hc).isMark, (h c hc).2.2⟩

/-- Plain text is printed as it is. -/
theorem render_plain (h : ∀ c ∈ cs, IsPlain c) : Markup.render cs = .ok cs :=
  Markup.render_eq_self_iff.mpr (unmarked_of_isPlain h)

namespace Screen

theorem expandTabs_plain (h : '\t' ∉ cs) : expandTabs cs = cs := by
  have hfrom : ∀ column, expandFrom column cs = cs := by
    induction cs with
    | nil => exact fun _ => rfl
    | cons c cs ih =>
        rw [List.mem_cons, not_or] at h
        intro column
        rw [expandFrom]
        · rw [ih h.2]
        · exact fun hc => h.1 hc.symm
  exact hfrom 0

theorem spacedWords_word (h : IsWord cs) {steps : Nat} (hsteps : 0 < steps) :
    spacedWords steps cs = [cs] := by
  obtain ⟨steps, rfl⟩ : ∃ n, steps = n + 1 := ⟨steps - 1, by omega⟩
  obtain ⟨c, ds, rfl⟩ := List.exists_cons_of_ne_nil h.1
  have hblank : ∀ d ∈ c :: ds, Text.isBlank d = false := fun d hd => (h.2 d hd).1
  have hbefore : (c :: ds).takeWhile Text.isBlank = [] := by
    simp [hblank c List.mem_cons_self]
  have hword : (c :: ds).takeWhile (fun d => !Text.isBlank d) = c :: ds :=
    List.takeWhile_eq_self_iff.mpr fun d hd => by simp [hblank d hd]
  have hrest : spacedWords steps [] = [] := by cases steps <;> rfl
  simp only [spacedWords, hbefore, List.length_nil, List.drop_zero, hword, List.drop_length]
  simp [hrest]

theorem trimRight_word (h : IsWord cs) : Text.trimRight cs = cs :=
  Text.trimRight_eq_self (List.getLast?_eq_some_getLast h.1) (h.2 _ (List.getLast_mem h.1)).1

/-- A word takes one line of a cell. -/
theorem cellLines_word (h : IsWord cs) (width : Nat) :
    cellLines width cs = [truncate width cs] := by
  have hlines : Text.splitAt (· == '\n') cs = [cs] := Text.splitAt_eq_singleton fun c hc => by
    simpa using (h.2 c hc).ne_of_isBlank (by decide)
  have htabs : expandTabs cs = cs := expandTabs_plain (notMem_of_isPlain h.2 (by decide))
  have hwords : spacedWords cs.length cs = [cs] :=
    spacedWords_word h (List.length_pos_iff.mpr h.1)
  have hfill : fill width [] 0 [cs] = [cs] := by
    by_cases hfits : Text.Cells.width (Text.trimRight cs) ≤ width <;> simp [fill, hfits]
  have hdrop : dropOverhang width cs = cs := by simp [dropOverhang, trimRight_word h]
  simp [cellLines, hlines, htabs, hwords, hfill, hdrop]

theorem cellWidth_word (h : IsWord cs) : cellWidth cs = Text.Cells.width cs := by
  rw [cellWidth, Text.lines_eq_singleton h.1 fun c hc => (h.2 c hc).isLineBreak]
  simp

end Screen

/-! ## Plain text behind tags -/

namespace Markup

theorem isStyle_dim : IsStyle "dim".toList "dim" where
  starts := ⟨'d', ['i', 'm'], rfl, rfl, by decide⟩
  unbracketed := by simp
  unassigned := by simp
  trimmed := by decide +kernel
  normal := by decide +kernel

/-- Plain text may stand behind a title in tags. -/
theorem render_titled {id : List Char} (h : ∀ c ∈ id, IsPlain c) :
    render ("[dim]Reference id:[/dim] ".toList ++ id) = .ok ("Reference id: ".toList ++ id) := by
  have htitle : Unmarked "Reference id:".toList :=
    ⟨untagged_of_notMem (by simp), by decide +kernel, by decide +kernel, by simp [isControl]⟩
  have hid : Unmarked (' ' :: id) :=
    (unmarked_cons_iff (by decide) (by simp) rfl).mpr (unmarked_of_isPlain h)
  have htext : "[dim]Reference id:[/dim] ".toList ++ id =
      styled "dim".toList "Reference id:".toList ++ ' ' :: id := by simp [styled]
  have hshown : "Reference id: ".toList ++ id = "Reference id:".toList ++ ' ' :: id := by simp
  rw [htext, hshown]
  exact (isStyle_dim.render_styled_iff (by simp) htitle).mpr hid

end Markup

/-! ## Lines -/

/-- The text takes one line, and its last character can be seen. -/
structure IsLine (cs : List Char) : Prop where
  unbroken : ∀ c ∈ cs, Text.isLineBreak c = false ∧ c ≠ '\t'
  ends : ∃ c, cs.getLast? = some c ∧ Text.isBlank c = false

theorem IsLine.append {title : List Char}
    (htitle : ∀ c ∈ title, Text.isLineBreak c = false ∧ c ≠ '\t') (h : IsLine cs) :
    IsLine (title ++ cs) where
  unbroken c hc := (List.mem_append.mp hc).elim (htitle c) (h.unbroken c)
  ends := by
    obtain ⟨c, hlast, hc⟩ := h.ends
    exact ⟨c, by simp [hlast], hc⟩

theorem IsWord.isLine (h : IsWord cs) : IsLine cs where
  unbroken c hc := ⟨(h.2 c hc).isLineBreak, (h.2 c hc).ne_of_isBlank (by decide)⟩
  ends := ⟨_, List.getLast?_eq_some_getLast h.1, (h.2 _ (List.getLast_mem h.1)).1⟩

/-- A text without line breaks and tabs is seen as one line. -/
theorem Screen.seenLines_line (h : IsLine cs) : seenLines cs = [String.ofList cs] := by
  obtain ⟨c, hlast, hc⟩ := h.ends
  have hne : cs ≠ [] := by
    rintro rfl
    simp at hlast
  have hsplit : Text.splitAt (· == '\n') cs = [cs] :=
    Text.splitAt_eq_singleton fun d hd => beq_false_of_ne fun heq => by
      subst heq
      exact absurd (h.unbroken '\n' hd).1 (by decide)
  rw [seenLines, hsplit]
  simp [expandTabs_plain fun hmem => (h.unbroken _ hmem).2 rfl,
    Text.lines_eq_singleton hne fun d hd => (h.unbroken d hd).1, Text.trimRight_eq_self hlast hc]

namespace Screen

variable {p : Char → Bool}

end Screen

/-- A line that starts as those do that are kept is kept. -/
theorem keptLines_line (h : IsLine cs) {start : String} (hstart : start ∈ lineStarts)
    (hstarts : start.toList <+: cs) : keptLines cs = [String.ofList cs] := by
  have hkept : (lineStarts.any fun start => (String.ofList cs).startsWith start) = true := by
    refine List.any_eq_true.mpr ⟨start, hstart, ?_⟩
    rwa [String.startsWith_string_iff, String.toList_ofList]
  rw [keptLines, Screen.seenLines_line h]
  simp only [List.filter_cons, hkept, if_true, List.filter_nil]

/-- Identifiers are words. -/
theorem isWord_ofName (name : String) : IsWord (NameId.ofName name).toList := by
  rw [NameId.ofName, NameId.ofDigest, String.toList_ofList]
  exact ⟨by simp [NameId.write], NameId.forall_mem_write (by decide) (by decide)⟩

end Console

end TypeSchema
