import Mathlib.Data.List.TakeWhile
import TypeSchema.Console.Markup
import TypeSchema.Proofs.Declaration.Run
/-!
# Texts without markup

A text is printed as it is exactly if nothing in it is markup: no bracket opens a tag, none is
escaped, no emoji is named, and no character moves the cursor (`print_eq_self_iff`).

That such a text is printed as it is, is read off the printer. The converse rests on a count. The
characters `[`, `\` and `:` are the *marks* that markup is made of. No stage of the printer adds a
mark, and a stage that changes its text loses one; so if the text comes out as it went in, no stage
has changed it.
-/

namespace TypeSchema

/-! ## Marks -/

namespace Text

/-- The character is one of those that markup is made of. -/
def isMark (c : Char) : Bool := c == '[' || c == '\\' || c == ':'

/-- The number of marks in a text. -/
def marks (cs : List Char) : Nat := cs.countP isMark

@[simp] theorem marks_nil : marks [] = 0 := rfl

@[simp] theorem marks_cons (c : Char) (cs : List Char) :
    marks (c :: cs) = marks cs + if isMark c then 1 else 0 := List.countP_cons

@[simp] theorem marks_append (cs ds : List Char) : marks (cs ++ ds) = marks cs + marks ds :=
  List.countP_append

@[simp] theorem marks_reverse (cs : List Char) : marks cs.reverse = marks cs :=
  List.countP_reverse

/-- What is made of a text: the text itself, or something with fewer marks. -/
def Remains (cs shown : List Char) : Prop := shown = cs ∨ marks shown < marks cs

namespace Remains

variable {cs ds es shown : List Char}

theorem refl (cs : List Char) : Remains cs cs := .inl rfl

theorem marks_le (h : Remains cs shown) : marks shown ≤ marks cs := by
  rcases h with rfl | h
  · exact le_rfl
  · exact h.le

theorem trans (h : Remains cs ds) (h' : Remains ds es) : Remains cs es := by
  rcases h with rfl | h
  · exact h'
  · exact .inr (h'.marks_le.trans_lt h)

theorem append {cs' ds' : List Char} (h : Remains cs ds) (h' : Remains cs' ds') :
    Remains (cs ++ cs') (ds ++ ds') := by
  rcases h with rfl | h
  · rcases h' with rfl | h'
    · exact .refl _
    · exact .inr (by simpa using h')
  · exact .inr (by simpa using Nat.add_lt_add_of_lt_of_le h h'.marks_le)

theorem cons (c : Char) (h : Remains cs ds) : Remains (c :: cs) (c :: ds) := (refl [c]).append h

/-- What has lost no marks is the text itself. -/
theorem eq_of_marks_le (h : Remains cs shown) (hle : marks cs ≤ marks shown) : shown = cs := by
  rcases h with h | h
  · exact h
  · exact absurd hle (Nat.not_le.mpr h)

end Remains

namespace Emoji

/-- No emoji has marks. -/
theorem isMark_of_mem_entries : ∀ e ∈ entries, ∀ n ∈ e.1, isMark (Char.ofNat n) = false := by
  decide +kernel

theorem marks_of_find? {name emoji : List Char} (h : find? name = some emoji) :
    marks emoji = 0 := by
  obtain ⟨e, hmem, hfound⟩ := List.exists_of_findSome?_eq_some h
  obtain ⟨-, hfound⟩ := Option.ite_none_right_eq_some.mp hfound
  obtain rfl := Option.some.inj hfound
  refine List.countP_eq_zero.mpr fun c hc => ?_
  obtain ⟨n, hn, rfl⟩ := List.mem_map.mp hc
  simp [isMark_of_mem_entries e hmem n hn]

variable {cs name rest : List Char} {selector : Option Char}

/-- The ending of a name has a colon before what follows it, and what it asks for is no mark. -/
theorem of_ending?_eq_some (h : ending? cs = some (selector, rest)) :
    (∃ suffix, cs = suffix ++ ':' :: rest) ∧ marks selector.toList = 0 := by
  simp only [ending?] at h
  split at h
  · next found _ hasked =>
      cases h
      obtain ⟨⟨suffix, asked⟩, hmem, hfound⟩ := List.exists_of_findSome?_eq_some hasked
      obtain ⟨hstarts, hfound⟩ := Option.ite_none_right_eq_some.mp hfound
      cases hfound
      obtain ⟨tail, rfl⟩ := List.isPrefixOf_iff_prefix.mp hstarts
      have hmarks : ∀ v ∈ variants, marks [v.2] = 0 := by decide
      exact ⟨⟨suffix, by simp [List.drop_append]⟩, hmarks _ hmem⟩
  · cases h
    exact ⟨⟨[], rfl⟩, rfl⟩
  · cases h

theorem of_name?_eq_some (h : name? cs = some (name, selector, rest)) :
    (∃ before, cs = before ++ ':' :: rest) ∧ marks selector.toList = 0 := by
  induction cs generalizing name with
  | nil => cases h
  | cons c cs ih =>
      rw [name?] at h
      split at h
      · next hending =>
          cases h
          exact of_ending?_eq_some hending
      · split at h
        · cases h
        · obtain ⟨⟨name, selector, rest⟩, hname, hfound⟩ := Option.map_eq_some_iff.mp h
          cases hfound
          obtain ⟨⟨before, rfl⟩, hmarks⟩ := ih hname
          exact ⟨⟨c :: before, rfl⟩, hmarks⟩

/-- An emoji takes the place of a name and the colons around it. -/
theorem remains_replaceIn (steps : Nat) (cs : List Char) : Remains cs (replaceIn steps cs) := by
  fun_induction replaceIn steps cs with
  | case1 cs => exact .refl cs
  | case2 => exact .refl []
  | case3 steps cs name selector rest hname written shown ih =>
      obtain ⟨⟨before, rfl⟩, hmarks⟩ := of_name?_eq_some hname
      have hcs : ':' :: (before ++ ':' :: rest) = (':' :: before ++ [':']) ++ rest := by simp
      have hwritten : written = ':' :: before ++ [':'] := by
        simp only [written]
        rw [hcs]
        exact List.take_left' (by simp; omega)
      have hshown : Remains written shown := by
        cases hfound : find? name with
        | none => simpa only [shown, hfound] using Remains.refl written
        | some emoji =>
            refine .inr ?_
            simp [shown, hfound, marks_of_find? hfound, hmarks, hwritten, isMark]
      exact hcs ▸ (hwritten ▸ hshown).append ih
  | case4 steps cs hname ih => exact .cons ':' ih
  | case5 steps c cs hc ih => exact .cons c ih

theorem remains_replace (cs : List Char) : Remains cs (replace cs) := remains_replaceIn _ cs

theorem replace_cons {c : Char} {cs : List Char} (h : c = ':' → name? cs = none) :
    replace (c :: cs) = c :: replace cs := by
  rw [replace, List.length_cons]
  by_cases hc : c = ':'
  · rw [hc, replaceIn, h hc]
    rfl
  · rw [replaceIn]
    · rfl
    · exact hc

end Emoji

end Text

namespace Console.Markup

open Text (isMark marks Remains)

/-! ## Brackets -/

theorem unescape_eq_self_iff {cs : List Char} : unescape cs = cs ↔ ¬['\\', '['] <:+: cs := by
  fun_induction unescape cs with
  | case1 cs ih =>
      have hescaped : ['\\', '['] <:+: '\\' :: '[' :: cs := List.IsPrefix.isInfix ⟨cs, rfl⟩
      simp [hescaped]
  | case2 c cs hc ih =>
      have hstarts : ¬['\\', '['] <+: c :: cs := by
        rintro ⟨tail, htail⟩
        cases htail
        exact hc tail rfl rfl
      simp [List.infix_cons_iff, hstarts, ih]
  | case3 => simp

/-- A backslash before a bracket is a mark. -/
theorem remains_unescape (cs : List Char) : Remains cs (unescape cs) := by
  fun_induction unescape cs with
  | case1 cs ih => exact .inr (by simpa [isMark, Nat.lt_succ_iff] using ih.marks_le)
  | case2 c cs hc ih => exact .cons c ih
  | case3 => exact .refl []

theorem eq_of_tag?_eq_some {after contents rest : List Char}
    (h : tag? after = some (contents, rest)) : after = contents ++ ']' :: rest := by
  cases after with
  | nil => cases h
  | cons c cs =>
      simp only [tag?] at h
      obtain ⟨-, h⟩ := Option.ite_none_right_eq_some.mp h
      split at h
      · next hdrop =>
          cases h
          rw [List.cons_append, ← hdrop, List.prefix_iff_eq_append.mp (List.takeWhile_prefix _)]
      · cases h

/-- No bracket of the text opens a tag. -/
def Untagged (cs : List Char) : Prop := ∀ after, '[' :: after <:+ cs → tag? after = none

theorem untagged_nil : Untagged [] :=
  fun _ h => absurd (List.suffix_nil.mp h) (List.cons_ne_nil _ _)

theorem untagged_cons_iff {c : Char} {cs : List Char} :
    Untagged (c :: cs) ↔ (c = '[' → tag? cs = none) ∧ Untagged cs := by
  constructor
  · intro h
    refine ⟨?_, fun after hafter => h after (hafter.trans (List.suffix_cons c cs))⟩
    rintro rfl
    exact h cs List.suffix_rfl
  · rintro ⟨hc, hcs⟩ after hafter
    rcases List.suffix_cons_iff.mp hafter with heq | hafter
    · cases heq
      exact hc rfl
    · exact hcs after hafter

/-- Text without brackets opens no tag. -/
theorem untagged_append_iff {text cs : List Char} (h : '[' ∉ text) :
    Untagged (text ++ cs) ↔ Untagged cs := by
  induction text with
  | nil => rfl
  | cons c text ih =>
      rw [List.mem_cons, not_or] at h
      rw [List.cons_append, untagged_cons_iff, ih h.2]
      exact and_iff_right fun hc => absurd hc.symm h.1

theorem untagged_of_notMem {cs : List Char} (h : '[' ∉ cs) : Untagged cs := by
  rw [← List.append_nil cs]
  exact (untagged_append_iff h).mpr untagged_nil

/-- The texts of some pieces. -/
def texts : List Piece → List Char
  | [] => []
  | .text cs :: ps => cs ++ texts ps
  | .tag _ _ _ :: ps => texts ps

theorem texts_append (ps qs : List Piece) : texts (ps ++ qs) = texts ps ++ texts qs := by
  induction ps with
  | nil => rfl
  | cons p ps ih => cases p <;> simp [texts, ih]

/-- A tag prints nothing: it opens or closes one, and then come the pieces behind it. -/
theorem exists_print_of_tag {tags : List OpenTag} {position : Nat} {name : List Char}
    {parameters : Option (List Char)} {pieces : List Piece} {printed : List Char}
    (h : print tags (.tag position name parameters :: pieces) = .ok printed) :
    ∃ others, print others pieces = .ok printed := by
  have hclosed : ∀ (x : Except Error (OpenTag × List OpenTag)),
      (x >>= fun found => checkClosed found.1 >>= fun _ => print found.2 pieces) =
        .ok printed → ∃ others, print others pieces = .ok printed := by
    intro x hx
    obtain ⟨found, -, hx⟩ := bind_eq_ok_iff.mp hx
    obtain ⟨-, -, hx⟩ := bind_eq_ok_iff.mp hx
    exact ⟨found.2, hx⟩
  rw [print.eq_def] at h
  split at h
  · next hnil => cases hnil
  · next htext => cases htext
  · next heq =>
    cases heq
    dsimp only at h
    split at h
    · split at h <;> exact hclosed _ h
    · obtain ⟨normal, -, h⟩ := bind_eq_ok_iff.mp h
      split at h <;> exact hclosed _ h
  · next heq =>
    cases heq
    obtain ⟨normal, -, h⟩ := bind_eq_ok_iff.mp h
    exact ⟨_, h⟩

/-- What is printed of pieces is made of their texts. -/
theorem remains_print {tags : List OpenTag} {pieces : List Piece} {printed : List Char}
    (h : print tags pieces = .ok printed) : Remains (texts pieces) printed := by
  induction pieces generalizing tags printed with
  | nil =>
      cases h
      exact .refl []
  | cons piece pieces ih =>
      cases piece with
      | text cs =>
          rw [print, bind_eq_ok_iff] at h
          obtain ⟨rest, hrest, h⟩ := h
          cases h
          exact ((remains_unescape cs).trans (Text.Emoji.remains_replace _)).append (ih hrest)
      | tag position name parameters =>
          obtain ⟨others, hothers⟩ := exists_print_of_tag h
          exact ih hothers

/-- A step through a message comes to a tag, of which it leaves fewer marks, or it puts text aside
that opens no tag. -/
theorem piecesIn_succ (steps position : Nat) (before : List Char) (c : Char) (cs : List Char) :
    (∃ tagged rest front next, c :: cs = tagged ++ rest ∧ ¬Untagged (c :: cs) ∧
      marks (texts front) < marks tagged ∧ piecesIn (steps + 1) position before (c :: cs) =
        .text before.reverse :: (front ++ piecesIn steps next [] rest)) ∨
    ∃ text rest next, text ≠ [] ∧ c :: cs = text ++ rest ∧ (Untagged (c :: cs) ↔ Untagged rest) ∧
      piecesIn (steps + 1) position before (c :: cs) =
        piecesIn steps next (text.reverse ++ before) rest := by
  obtain ⟨n, hslashes⟩ : ∃ n, (c :: cs).takeWhile (· = '\\') = List.replicate n '\\' :=
    ⟨_, List.eq_replicate_of_mem fun d hd => by simpa using List.mem_takeWhile_imp hd⟩
  have hcs : c :: cs = List.replicate n '\\' ++ (c :: cs).drop n := by
    have happend := List.prefix_iff_eq_append.mp (List.takeWhile_prefix (l := c :: cs) (· = '\\'))
    rwa [hslashes, List.length_replicate, eq_comm] at happend
  have hbracket : '[' ∉ List.replicate n '\\' := by simp
  have hmarks : ∀ m, marks (List.replicate m '\\') = m := by
    intro m
    rw [marks, List.countP_replicate]
    rfl
  rw [piecesIn]
  simp only [hslashes, List.length_replicate]
  -- The backslashes at the front belong to the bracket that follows them, if one does.
  split
  · next after hdrop =>
      rw [hdrop] at hcs
      split
      · next contents rest htag =>
          have hafter : after = contents ++ ']' :: rest := eq_of_tag?_eq_some htag
          refine .inl ⟨List.replicate n '\\' ++ '[' :: (contents ++ [']']), rest,
            [.text (List.replicate (n / 2) '\\'), _], _, ?_, ?_, ?_, rfl⟩
          · simp [hcs, hafter]
          · intro huntagged
            rw [hcs, untagged_append_iff hbracket, untagged_cons_iff, htag] at huntagged
            cases huntagged.1 rfl
          -- A tag is printed without its backslashes if it is escaped, and not at all otherwise.
          · split
            · simp [texts, hmarks, isMark]
              omega
            · simp [texts, ofContents, hmarks, isMark]
              omega
      · next htag =>
          -- A bracket that opens no tag is put aside together with the backslashes.
          refine .inr ⟨List.replicate n '\\' ++ ['['], after, _, by simp, by simp [hcs], ?_,
            by simp; rfl⟩
          rw [hcs, untagged_append_iff hbracket, untagged_cons_iff]
          exact and_iff_right fun _ => htag
  · next rest hne =>
      split
      · next hempty =>
          -- Neither a backslash nor a bracket: one character is put aside.
          obtain rfl : n = 0 := by simpa using hempty
          refine .inr ⟨[c], cs, _, by simp, rfl, ?_, rfl⟩
          rw [untagged_cons_iff]
          refine and_iff_right ?_
          rintro rfl
          exact absurd rfl (hne cs)
      · next hsome =>
          refine .inr ⟨List.replicate n '\\', _, _, by simpa using hsome, hcs, ?_,
            by simp; rfl⟩
          conv_lhs => rw [hcs]
          exact untagged_append_iff hbracket

/-- A message is one text, or it loses marks to its tags. -/
theorem piecesIn_cases {steps : Nat} {cs : List Char} (h : cs.length ≤ steps) (position : Nat)
    (before : List Char) :
    (Untagged cs ∧ piecesIn steps position before cs = [.text (before.reverse ++ cs)]) ∨
    (¬Untagged cs ∧
      marks (texts (piecesIn steps position before cs)) < marks (before.reverse ++ cs)) := by
  -- A step takes something off the message, so that there are enough steps for what is left.
  induction steps generalizing position before cs with
  | zero =>
      obtain rfl := List.eq_nil_of_length_eq_zero (Nat.le_zero.mp h)
      exact .inl ⟨untagged_nil, rfl⟩
  | succ steps ih =>
      cases cs with
      | nil => exact .inl ⟨untagged_nil, by simp [piecesIn]⟩
      | cons c cs =>
          rcases piecesIn_succ steps position before c cs with
            ⟨tagged, rest, front, next, hcs, huntagged, hmarks, hpieces⟩ |
            ⟨text, rest, next, hne, hcs, huntagged, hpieces⟩
          · refine .inr ⟨huntagged, ?_⟩
            have hrest : rest.length ≤ steps := by
              have hlength := hmarks.trans_le List.countP_le_length
              have hlengths := congrArg List.length hcs
              simp only [List.length_cons, List.length_append] at h hlengths
              omega
            have hle : marks (texts (piecesIn steps next [] rest)) ≤ marks rest := by
              rcases ih hrest next [] with ⟨-, heq⟩ | ⟨-, hlt⟩
              · simp [heq, texts]
              · exact hlt.le
            rw [hpieces, hcs]
            simp only [texts, texts_append, Text.marks_append]
            omega
          · rw [hpieces, huntagged]
            have hrest : rest.length ≤ steps := by
              have hlength := List.length_pos_iff.mpr hne
              have hlengths := congrArg List.length hcs
              simp only [List.length_cons, List.length_append] at h hlengths
              omega
            simpa [hcs] using ih hrest next (text.reverse ++ before)

/-! ## What is printed as it is -/

/-- Nothing in a text is markup. -/
structure Unmarked (cs : List Char) : Prop where
  untagged : Untagged cs
  /-- No bracket is escaped. -/
  unescaped : ¬['\\', '['] <:+: cs
  /-- No emoji is named. -/
  unnamed : Text.Emoji.replace cs = cs
  /-- No character moves the cursor. -/
  visible : ∀ c ∈ cs, isControl c = false

theorem unmarked_nil : Unmarked [] :=
  ⟨untagged_nil, by simp, rfl, by simp⟩

/-- A character that starts no markup may stand before a text. -/
theorem unmarked_cons_iff {c : Char} {cs : List Char} (hc : c ≠ '[' ∧ c ≠ '\\')
    (hname : c = ':' → Text.Emoji.name? cs = none) (hvisible : isControl c = false) :
    Unmarked (c :: cs) ↔ Unmarked cs := by
  have huntagged : Untagged (c :: cs) ↔ Untagged cs := by simp [untagged_cons_iff, hc.1]
  have hescaped : ['\\', '['] <:+: c :: cs ↔ ['\\', '['] <:+: cs := by
    simp [List.infix_cons_iff, List.cons_prefix_cons, hc.2.symm]
  have hunnamed : Text.Emoji.replace (c :: cs) = c :: cs ↔ Text.Emoji.replace cs = cs := by
    simp [Text.Emoji.replace_cons hname]
  constructor
  · rintro ⟨h₁, h₂, h₃, h₄⟩
    exact ⟨huntagged.mp h₁, h₂ ∘ hescaped.mpr, hunnamed.mp h₃, (List.forall_mem_cons.mp h₄).2⟩
  · rintro ⟨h₁, h₂, h₃, h₄⟩
    exact ⟨huntagged.mpr h₁, h₂ ∘ hescaped.mp, hunnamed.mpr h₃,
      List.forall_mem_cons.mpr ⟨hvisible, h₄⟩⟩

theorem unmarked_append_iff {text cs : List Char}
    (h : ∀ c ∈ text, isMark c = false ∧ isControl c = false) :
    Unmarked (text ++ cs) ↔ Unmarked cs := by
  induction text with
  | nil => rfl
  | cons c text ih =>
      obtain ⟨hmark, hvisible⟩ := h c List.mem_cons_self
      obtain ⟨⟨hbracket, hslash⟩, hcolon⟩ : (c ≠ '[' ∧ c ≠ '\\') ∧ c ≠ ':' := by
        simpa [isMark] using hmark
      rw [List.cons_append, unmarked_cons_iff ⟨hbracket, hslash⟩ (fun hc => absurd hc hcolon)
        hvisible, ih fun d hd => h d (List.mem_cons_of_mem c hd)]

/-- A text without marks has no markup. -/
theorem unmarked_of_plain {cs : List Char}
    (h : ∀ c ∈ cs, isMark c = false ∧ isControl c = false) : Unmarked cs := by
  rw [← List.append_nil cs]
  exact (unmarked_append_iff h).mpr unmarked_nil

/-- The characters that move the cursor are no marks. -/
theorem marks_filter (cs : List Char) :
    marks (cs.filter fun c => !isControl c) = marks cs := by
  rw [marks, List.countP_filter]
  refine List.countP_congr fun c _ => ?_
  suffices hmark : isMark c = true → isControl c = false by simpa using hmark
  intro hmark
  obtain (rfl | rfl) | rfl : (c = '[' ∨ c = '\\') ∨ c = ':' := by simpa [isMark] using hmark
  all_goals rfl

theorem print_singleton (tags : List OpenTag) (cs : List Char) :
    print tags [.text cs] = .ok (Text.Emoji.replace (unescape cs)) :=
  congrArg Except.ok (List.append_nil _)

variable {steps position : Nat} {tags : List OpenTag} {cs : List Char}

/-- If no marks are lost on the way, the text has not been changed, and nothing was there to change
it. -/
theorem eq_of_print {printed : List Char} (h : cs.length ≤ steps)
    (hprint : print tags (piecesIn steps position [] cs) = .ok printed)
    (hmarks : marks cs ≤ marks printed) :
    printed = cs ∧ Untagged cs ∧ unescape cs = cs ∧ Text.Emoji.replace cs = cs := by
  rcases piecesIn_cases h position [] with ⟨huntagged, hpieces⟩ | ⟨-, hlost⟩
  · rw [hpieces, print_singleton] at hprint
    obtain rfl : Text.Emoji.replace (unescape cs) = printed := Except.ok.inj hprint
    have hreplaced := Text.Emoji.remains_replace (unescape cs)
    have hunescaped : unescape cs = cs :=
      (remains_unescape cs).eq_of_marks_le (hmarks.trans hreplaced.marks_le)
    rw [hunescaped] at hreplaced hmarks ⊢
    have hunnamed : Text.Emoji.replace cs = cs := hreplaced.eq_of_marks_le hmarks
    exact ⟨hunnamed, huntagged, rfl, hunnamed⟩
  · have hprinted := (remains_print hprint).marks_le
    exact absurd (hmarks.trans hprinted) (Nat.not_le.mpr (by simpa using hlost))

theorem print_eq_self_iff (position : Nat) (tags : List OpenTag) (h : cs.length ≤ steps) :
    (∃ printed, print tags (piecesIn steps position [] cs) = .ok printed ∧
      printed.filter (fun c => !isControl c) = cs) ↔ Unmarked cs := by
  constructor
  · rintro ⟨printed, hprint, hshown⟩
    have hmarks : marks cs ≤ marks printed := by rw [← marks_filter printed, hshown]
    obtain ⟨rfl, huntagged, hunescaped, hunnamed⟩ := eq_of_print h hprint hmarks
    exact ⟨huntagged, unescape_eq_self_iff.mp hunescaped, hunnamed,
      by simpa [List.filter_eq_self] using hshown⟩
  · intro hunmarked
    rcases piecesIn_cases h position [] with ⟨-, hpieces⟩ | ⟨huntagged, -⟩
    · refine ⟨cs, ?_, by simpa [List.filter_eq_self] using hunmarked.visible⟩
      rw [hpieces, print_singleton, List.reverse_nil, List.nil_append,
        unescape_eq_self_iff.mpr hunmarked.unescaped, hunmarked.unnamed]
    · exact absurd hunmarked.untagged huntagged

/-- A text without brackets is one piece, so the printer need not have looked for brackets first. -/
theorem render_eq (cs : List Char) : render cs =
    (print [] (piecesIn cs.length 0 [] cs)).map fun printed =>
      printed.filter fun c => !isControl c := by
  by_cases hbracket : '[' ∈ cs
  · rw [render, if_pos (List.contains_iff_mem.mpr hbracket)]
    rfl
  · have hunescaped : unescape cs = cs := unescape_eq_self_iff.mpr fun hescaped =>
      hbracket (hescaped.subset (by simp))
    rcases piecesIn_cases (le_refl cs.length) 0 [] with ⟨-, hpieces⟩ | ⟨hnot, -⟩
    · rw [render, if_neg (by simpa using hbracket), hpieces, print_singleton, List.reverse_nil,
        List.nil_append, hunescaped]
      rfl
    · exact absurd (untagged_of_notMem hbracket) hnot

/-- A text is printed as it is exactly if nothing in it is markup. -/
theorem render_eq_self_iff : render cs = .ok cs ↔ Unmarked cs := by
  rw [← print_eq_self_iff 0 [] le_rfl, render_eq]
  cases print [] (piecesIn cs.length 0 [] cs) <;> simp [Except.map]

/-! ## Titles in tags -/

/-- A title in tags that ask for a style. -/
def styled (style title : List Char) : List Char :=
  '[' :: style ++ ']' :: (title ++ '[' :: ('/' :: style ++ [']']))

/-- The text is the name of a style with a normal form, and nothing else that a tag may hold. -/
structure IsStyle (style : List Char) (normal : String) : Prop where
  starts : ∃ c cs, style = c :: cs ∧ startsTag c = true ∧ c ≠ '/'
  unbracketed : ∀ c ∈ style, c ≠ '[' ∧ c ≠ ']'
  unassigned : '=' ∉ style
  trimmed : Text.trim style = style
  normal : normalName style = .ok normal

/-- Contents that start a tag and hold no bracket are those of a tag. -/
theorem tag?_append {c : Char} {cs : List Char} (hc : startsTag c = true)
    (hcs : ∀ d ∈ cs, d ≠ '[' ∧ d ≠ ']') (rest : List Char) :
    tag? (c :: cs ++ ']' :: rest) = some (c :: cs, rest) := by
  have hbody : (cs ++ ']' :: rest).takeWhile (fun d => d ≠ '[' && d ≠ ']') = cs := by
    rw [List.takeWhile_append_of_pos fun d hd => by simpa using hcs d hd]
    simp
  simp only [tag?, List.cons_append, hc, if_true]
  simp only [hbody, List.drop_left]

theorem ofContents_name {contents : List Char} (h : '=' ∉ contents) (position : Nat) :
    ofContents position contents = .tag position contents none := by
  have hname : contents.takeWhile (· ≠ '=') = contents :=
    List.takeWhile_eq_self_iff.mpr fun c hc => by simpa using ne_of_mem_of_not_mem hc h
  simp only [ofContents, hname, lt_irrefl, if_false]

/-- Text without brackets and backslashes is put aside up to the next tag. -/
theorem piecesIn_plain {text : List Char} (h : ∀ c ∈ text, c ≠ '[' ∧ c ≠ '\\') {steps : Nat}
    (hsteps : text.length ≤ steps) (position : Nat) (before rest : List Char) :
    piecesIn steps position before (text ++ rest) =
      piecesIn (steps - text.length) (position + text.length) (text.reverse ++ before) rest := by
  induction text generalizing steps position before with
  | nil => simp
  | cons c text ih =>
      obtain ⟨steps, rfl⟩ : ∃ n, steps = n + 1 := ⟨steps - 1, by simp at hsteps; omega⟩
      obtain ⟨hbracket, hslash⟩ := h c List.mem_cons_self
      have hstep : piecesIn (steps + 1) position before (c :: (text ++ rest)) =
          piecesIn steps (position + 1) (c :: before) (text ++ rest) := by
        simp [piecesIn, hbracket, hslash]
      rw [List.cons_append, hstep, ih (fun d hd => h d (List.mem_cons_of_mem _ hd))
        (by simpa using hsteps), List.length_cons, Nat.add_sub_add_right, Nat.add_right_comm,
        List.reverse_cons, List.append_assoc]
      rfl

/-- A tag ends the text before it. -/
theorem piecesIn_tag {after contents rest : List Char} (h : tag? after = some (contents, rest))
    (steps position : Nat) (before : List Char) :
    piecesIn (steps + 1) position before ('[' :: after) = .text before.reverse :: .text [] ::
      ofContents position contents :: piecesIn steps (position + contents.length + 2) [] rest := by
  simp [piecesIn, h]

theorem print_text (tags : List OpenTag) (cs : List Char) (ps : List Piece) :
    print tags (.text cs :: ps) =
      (print tags ps).map (Text.Emoji.replace (unescape cs) ++ ·) := by
  rw [print]
  cases print tags ps <;> rfl

namespace IsStyle

variable {style title : List Char} {normal : String} (h : IsStyle style normal)
include h

theorem print_open (tags : List OpenTag) (position : Nat) (ps : List Piece) :
    print tags (.tag position style none :: ps) = print (⟨normal, none⟩ :: tags) ps := by
  obtain ⟨c, cs, rfl, -, hc⟩ := h.starts
  rw [print, h.normal]
  · rfl
  · rintro rest heq
    exact hc (List.cons.inj heq).1

theorem print_close (tags : List OpenTag) (position : Nat) (ps : List Piece) :
    print (⟨normal, none⟩ :: tags) (.tag position ('/' :: style) none :: ps) = print tags ps := by
  obtain ⟨c, cs, rfl, -, hc⟩ := h.starts
  rw [print.eq_def]
  simp [h.trimmed, h.normal, close?, checkClosed, bind, Except.bind]

/-- The pieces of a title, before those of what follows it. -/
theorem piecesIn_styled (htitle : ∀ c ∈ title, c ≠ '[' ∧ c ≠ '\\') (steps : Nat)
    (rest : List Char) : ∃ position next,
    piecesIn (steps + 1 + title.length + 1) 0 [] (styled style title ++ rest) =
      [.text [], .text [], .tag 0 style none, .text title, .text [],
        .tag position ('/' :: style) none] ++ piecesIn steps next [] rest := by
  have hopen : tag? (style ++ ']' :: (title ++ '[' :: ('/' :: style ++ ']' :: rest))) =
      some (style, title ++ '[' :: ('/' :: style ++ ']' :: rest)) := by
    obtain ⟨c, cs, rfl, hc, -⟩ := h.starts
    exact tag?_append hc (fun d hd => h.unbracketed d (List.mem_cons_of_mem c hd)) _
  have hclose : tag? ('/' :: style ++ ']' :: rest) = some ('/' :: style, rest) :=
    tag?_append rfl h.unbracketed _
  have hsplit : styled style title ++ rest =
      '[' :: (style ++ ']' :: (title ++ '[' :: ('/' :: style ++ ']' :: rest))) := by simp [styled]
  rw [hsplit, piecesIn_tag hopen, piecesIn_plain htitle (by omega), Nat.add_sub_cancel,
    piecesIn_tag hclose, ofContents_name h.unassigned,
    ofContents_name (by simpa using h.unassigned)]
  rw [List.append_nil, List.reverse_reverse]
  exact ⟨_, _, rfl⟩

/-- A title is printed before what is printed of the text that follows it. -/
theorem render_styled (htitle : ∀ c ∈ title, c ≠ '[' ∧ c ≠ '\\') (hunmarked : Unmarked title)
    (rest : List Char) : ∃ steps next, rest.length ≤ steps ∧
      render (styled style title ++ rest) = (print [] (piecesIn steps next [] rest)).map
        fun printed => title ++ printed.filter fun c => !isControl c := by
  obtain ⟨steps, hsteps, hle⟩ : ∃ steps, (styled style title ++ rest).length =
      steps + 1 + title.length + 1 ∧ rest.length ≤ steps :=
    ⟨rest.length + 2 * style.length + 3, by simp [styled]; omega, by omega⟩
  obtain ⟨position, next, hpieces⟩ := h.piecesIn_styled htitle steps rest
  have hshown : Text.Emoji.replace (unescape title) = title := by
    rw [unescape_eq_self_iff.mpr hunmarked.unescaped, hunmarked.unnamed]
  have hfilter : title.filter (fun c => !isControl c) = title := by
    simpa [List.filter_eq_self] using hunmarked.visible
  have hnothing : Text.Emoji.replace (unescape []) = [] := rfl
  refine ⟨steps, next, hle, ?_⟩
  rw [render_eq, hsteps, hpieces]
  simp only [List.cons_append, List.nil_append, print_text, h.print_open, h.print_close, hshown,
    hnothing]
  cases print [] (piecesIn steps next [] rest) <;> simp [Except.map, hfilter]

/-- What follows a title is printed as it is exactly if nothing in it is markup. -/
theorem render_styled_iff (htitle : ∀ c ∈ title, c ≠ '[' ∧ c ≠ '\\') (hunmarked : Unmarked title)
    {rest : List Char} :
    render (styled style title ++ rest) = .ok (title ++ rest) ↔ Unmarked rest := by
  obtain ⟨steps, next, hle, hrender⟩ := h.render_styled htitle hunmarked rest
  rw [← print_eq_self_iff next [] hle, hrender]
  cases print [] (piecesIn steps next [] rest) <;> simp [Except.map]

end IsStyle

end Console.Markup

end TypeSchema
