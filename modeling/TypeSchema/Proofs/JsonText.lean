import TypeSchema.Json.Layout
/-!
# Reading JSON text

`Json.parse` reads the JSON text of a document whose numbers are integers. Between the parts of a
document may stand any blanks; the members of an object are kept in the order in which they are
written. A character may be escaped by its number in UTF-16, in one escape or in two.

Every layout can be read: `parse_write` says that what is read of a written document is the
document. The induction is on the document, for any text behind it that does not go on with a digit;
the steps of the reader are counted by the length of the text, so that they never run out.
-/

namespace TypeSchema

namespace Text

/-- The value of a hexadecimal digit. -/
def hexValue? (c : Char) : Option Nat :=
  if '0' ≤ c ∧ c ≤ '9' then some (c.toNat - '0'.toNat)
  else if 'a' ≤ c ∧ c ≤ 'f' then some (c.toNat - 'a'.toNat + 10)
  else if 'A' ≤ c ∧ c ≤ 'F' then some (c.toNat - 'A'.toNat + 10)
  else none

theorem hexValue?_hexDigit (n : Nat) : hexValue? (hexDigit n) = some (n % 16) := by
  have hall : ∀ d < 16, hexValue? (hexDigit d) = some d := by decide
  rw [← hexDigit_mod]
  exact hall _ (Nat.mod_lt _ (by decide))

end Text

namespace Json

/-! ## The reader -/

/-- The blanks that may stand between the parts of a document. -/
def isBlank (c : Char) : Bool := c == ' ' || c == '\n' || c == '\t' || c == '\r'

/-- A text without the blanks that it starts with. -/
def skipBlanks (cs : List Char) : List Char := cs.dropWhile isBlank

/-- Read a number in its shortest form. -/
def readNat? (cs : List Char) : Option (Nat × List Char) :=
  let digits := cs.takeWhile Char.isDigit
  let n := Nat.ofDigitChars 10 digits 0
  if Nat.toDigits 10 n = digits then some (n, cs.dropWhile Char.isDigit) else none

/-- Read the four digits of a UTF-16 unit. -/
def readUnit? : List Char → Option (Nat × List Char)
  | a :: b :: c :: d :: cs => do
    let unit := 16 * (16 * (16 * (← Text.hexValue? a) + (← Text.hexValue? b)) +
      (← Text.hexValue? c)) + (← Text.hexValue? d)
    return (unit, cs)
  | _ => none

/-- The character that a letter stands for behind a backslash. -/
def escaped? (c : Char) : Option Char :=
  if c = '"' ∨ c = '\\' ∨ c = '/' then some c
  else if c = 'n' then some '\n'
  else if c = 'r' then some '\r'
  else if c = 't' then some '\t'
  else if c = 'b' then some (Char.ofNat 0x08)
  else if c = 'f' then some (Char.ofNat 0x0c)
  else none

/-- Read the character that one unit or two units make. -/
def readUnits? (cs : List Char) : Option (Char × List Char) := do
  let (unit, rest) ← readUnit? cs
  if unit < 0xd800 ∨ 0xe000 ≤ unit then return (Char.ofNat unit, rest)
  else match rest with
    | '\\' :: 'u' :: cs => do
      let (low, rest) ← readUnit? cs
      if unit < 0xdc00 ∧ 0xdc00 ≤ low ∧ low < 0xe000 then
        return (Char.ofNat (0x10000 + 0x400 * (unit - 0xd800) + (low - 0xdc00)), rest)
      else none
    | _ => none

/-- Read one character inside a JSON string. -/
def readChar? : List Char → Option (Char × List Char)
  | [] => none
  | c :: cs =>
    if c.toNat < 0x20 ∨ c = '"' then none
    else if c = '\\' then
      match cs with
      | [] => none
      | d :: cs => if d = 'u' then readUnits? cs else (escaped? d).map fun e => (e, cs)
    else some (c, cs)

/-- Read the characters of a JSON string up to the quote that ends it, in at most some steps. -/
def readChars? : (steps : Nat) → List Char → Option (List Char × List Char)
  | 0, _ => none
  | steps + 1, cs =>
    if cs.head? = some '"' then some ([], cs.tail)
    else do
      let (c, rest) ← readChar? cs
      let (s, rest) ← readChars? steps rest
      return (c :: s, rest)

/-- Read the name of a member and the colon behind it, in at most some steps. -/
def readName? (steps : Nat) (cs : List Char) : Option (String × List Char) :=
  match skipBlanks cs with
  | '"' :: rest => do
    let (name, rest) ← readChars? steps rest
    match skipBlanks rest with
    | ':' :: rest => return (String.ofList name, rest)
    | _ => none
  | _ => none

/-- Read a word. -/
def readWord? (cs : List Char) : Option (Json × List Char) :=
  if "null".toList.isPrefixOf cs then some (.null, cs.drop 4)
  else if "true".toList.isPrefixOf cs then some (.bool true, cs.drop 4)
  else if "false".toList.isPrefixOf cs then some (.bool false, cs.drop 5)
  else none

mutual

/-- Read a document, in at most some steps. -/
def readValue? : (steps : Nat) → List Char → Option (Json × List Char)
  | 0, _ => none
  | steps + 1, cs =>
    match skipBlanks cs with
    | [] => none
    | c :: rest =>
      if c = '"' then (readChars? steps rest).map fun (s, rest) => (.string (String.ofList s), rest)
      else if c = '[' then
        if (skipBlanks rest).head? = some ']' then some (.array [], (skipBlanks rest).tail)
        else (readItems? steps rest).map fun (items, rest) => (.array items, rest)
      else if c = '\x7b' then
        if (skipBlanks rest).head? = some '\x7d' then some (.object [], (skipBlanks rest).tail)
        else (readMembers? steps rest).map fun (members, rest) => (.object members, rest)
      else if c = '-' then (readNat? rest).map fun (n, rest) => (.int (-n), rest)
      else if c.isDigit then (readNat? (c :: rest)).map fun (n, rest) => (.int n, rest)
      else readWord? (c :: rest)

/-- Read the items of an array up to the bracket that ends it. -/
def readItems? : (steps : Nat) → List Char → Option (List Json × List Char)
  | 0, _ => none
  | steps + 1, cs => do
    let (item, rest) ← readValue? steps cs
    match skipBlanks rest with
    | ',' :: rest => (readItems? steps rest).map fun (items, rest) => (item :: items, rest)
    | ']' :: rest => some ([item], rest)
    | _ => none

/-- Read the members of an object up to the brace that ends it. -/
def readMembers? : (steps : Nat) → List Char → Option (List (String × Json) × List Char)
  | 0, _ => none
  | steps + 1, cs => do
    let (name, rest) ← readName? steps cs
    let (value, rest) ← readValue? steps rest
    match skipBlanks rest with
    | ',' :: rest =>
      (readMembers? steps rest).map fun (members, rest) => ((name, value) :: members, rest)
    | '\x7d' :: rest => some ([(name, value)], rest)
    | _ => none

end

/-- The document of a JSON text. -/
def parse (text : String) : Option Json :=
  match readValue? (text.toList.length + 1) text.toList with
  | some (doc, rest) => if skipBlanks rest = [] then some doc else none
  | none => none

/-! ## Strings are read back -/

variable (layout : Layout)

theorem readUnit?_hexDigits {n : Nat} (hn : n < 0x10000) (rest : List Char) :
    readUnit? (Text.hexDigits 4 n ++ rest) = some (n, rest) := by
  have hunit : 16 * (16 * (16 * (n / 16 / 16 / 16 % 16) + n / 16 / 16 % 16) + n / 16 % 16) +
      n % 16 = n := by omega
  simp [Text.hexDigits, readUnit?, Text.hexValue?_hexDigit, hunit]

/-- A character outside the surrogates is read from its escape. -/
theorem readUnits?_unit {c : Char} (hc : c.toNat < 0x10000) (rest : List Char) :
    readUnits? (Text.hexDigits 4 c.toNat ++ rest) = some (c, rest) := by
  have hvalid : c.toNat < 0xd800 ∨ 0xe000 ≤ c.toNat := by
    rcases c.valid with h | ⟨h, -⟩
    · exact .inl h
    · exact .inr h
  simp [readUnits?, readUnit?_hexDigits hc, hvalid]

/-- Two surrogates are read as the character that they make together. -/
theorem readUnits?_surrogates {high low : Nat} (hhigh : 0xd800 ≤ high ∧ high < 0xdc00)
    (hlow : 0xdc00 ≤ low ∧ low < 0xe000) (rest : List Char) :
    readUnits? (Text.hexDigits 4 high ++ (Layout.unitEscape low ++ rest)) =
      some (Char.ofNat (0x10000 + 0x400 * (high - 0xd800) + (low - 0xdc00)), rest) := by
  have hsurrogate : ¬(high < 0xd800 ∨ 0xe000 ≤ high) := by omega
  have hpair : high < 0xdc00 ∧ 0xdc00 ≤ low ∧ low < 0xe000 := ⟨hhigh.2, hlow⟩
  simp [readUnits?, Layout.unitEscape, readUnit?_hexDigits (show high < 0x10000 by omega),
    readUnit?_hexDigits (show low < 0x10000 by omega), hsurrogate, hpair]

/-- A character above U+FFFF is read from its two escapes. -/
theorem readUnits?_pair {c : Char} (hc : 0x10000 ≤ c.toNat) (rest : List Char) :
    readUnits? (Text.hexDigits 4 (0xd800 + (c.toNat - 0x10000) / 0x400) ++
      (Layout.unitEscape (0xdc00 + (c.toNat - 0x10000) % 0x400) ++ rest)) = some (c, rest) := by
  have hbound : c.toNat < 0x110000 := by
    rcases c.valid with h | ⟨-, h⟩
    · exact Nat.lt_trans h (by decide)
    · exact h
  have hnumber : 0x10000 + 0x400 * (0xd800 + (c.toNat - 0x10000) / 0x400 - 0xd800) +
      (0xdc00 + (c.toNat - 0x10000) % 0x400 - 0xdc00) = c.toNat := by omega
  rw [readUnits?_surrogates (by omega) (by omega), hnumber, Char.ofNat_toNat]

/-- A character is read back from what is written for it. -/
theorem readChar?_escape (c : Char) (rest : List Char) :
    readChar? (layout.escape c ++ rest) = some (c, rest) := by
  simp only [Layout.escape]
  split
  · subst c; rfl
  split
  · subst c; rfl
  split
  · subst c; rfl
  split
  · subst c; rfl
  split
  · subst c; rfl
  split
  · next h =>
    obtain rfl : c = Char.ofNat 0x08 := by rw [← h, Char.ofNat_toNat]
    rfl
  split
  · next h =>
    obtain rfl : c = Char.ofNat 0x0c := by rw [← h, Char.ofNat_toNat]
    rfl
  split
  · exact readUnits?_unit (by omega) rest
  split
  · next hquote hslash _ _ _ _ _ hcontrol _ => simp [readChar?, hquote, hslash, hcontrol]
  split
  · next hunit => exact readUnits?_unit hunit rest
  · next hunit =>
    rw [List.append_assoc]
    exact readUnits?_pair (by omega) rest

theorem head?_escape (c : Char) (rest : List Char) :
    (layout.escape c ++ rest).head? ≠ some '"' := by
  intro hhead
  obtain ⟨cs, hcs⟩ := List.head?_eq_some_iff.mp hhead
  have hread := readChar?_escape layout c rest
  rw [hcs] at hread
  simp [readChar?] at hread

/-- A string is read back, up to its quote. -/
theorem readChars?_flatMap (s : List Char) {steps : Nat} (hsteps : s.length < steps)
    (rest : List Char) :
    readChars? steps (s.flatMap layout.escape ++ '"' :: rest) = some (s, rest) := by
  induction s generalizing steps with
  | nil =>
      obtain ⟨steps, rfl⟩ := Nat.exists_eq_add_of_lt hsteps
      simp [readChars?]
  | cons c s ih =>
      obtain ⟨steps, rfl⟩ := Nat.exists_eq_add_of_lt hsteps
      rw [List.flatMap_cons, List.append_assoc, readChars?, if_neg (head?_escape layout c _),
        readChar?_escape, Option.bind_eq_bind, Option.bind_some]
      have hread := @ih ((c :: s).length + steps) (by rw [List.length_cons]; omega)
      simp only [hread]
      rfl

theorem string_append (s : String) (rest : List Char) :
    layout.string s ++ rest = '"' :: (s.toList.flatMap layout.escape ++ '"' :: rest) := by
  simp [Layout.string]

theorem length_lt_string (s : String) : s.toList.length + 1 < (layout.string s).length := by
  have hescape : ∀ c, layout.escape c ≠ [] := by
    intro c hnil
    have hread := readChar?_escape layout c []
    rw [hnil] at hread
    simp [readChar?] at hread
  have hlength : ∀ cs : List Char, cs.length ≤ (cs.flatMap layout.escape).length := by
    intro cs
    induction cs with
    | nil => exact Nat.le_refl _
    | cons c cs ih =>
        have hpos := List.length_pos_iff.mpr (hescape c)
        rw [List.flatMap_cons, List.length_append, List.length_cons]
        omega
  have hs := hlength s.toList
  simp only [Layout.string, List.length_append, List.length_cons, List.length_nil]
  omega

/-! ## Numbers are read back -/

variable {layout}

/-- A text does not go on with a digit. -/
def NoDigit (cs : List Char) : Prop := ∀ c ∈ cs.head?, c.isDigit = false

theorem readNat?_toDigits (n : Nat) {rest : List Char} (hrest : NoDigit rest) :
    readNat? (Nat.toDigits 10 n ++ rest) = some (n, rest) := by
  have hdigits : ∀ c ∈ Nat.toDigits 10 n, c.isDigit = true :=
    fun c hc => Nat.isDigit_of_mem_toDigits (by decide) (by decide) hc
  have hstop : rest.takeWhile Char.isDigit = [] ∧ rest.dropWhile Char.isDigit = rest := by
    cases rest with
    | nil => exact ⟨rfl, rfl⟩
    | cons c rest =>
        have hc : c.isDigit = false := hrest c rfl
        simp [hc]
  have htake : (Nat.toDigits 10 n ++ rest).takeWhile Char.isDigit = Nat.toDigits 10 n := by
    rw [List.takeWhile_append_of_pos hdigits, hstop.1, List.append_nil]
  have hdrop : (Nat.toDigits 10 n ++ rest).dropWhile Char.isDigit = rest := by
    rw [List.dropWhile_append_of_pos hdigits, hstop.2]
  simp [readNat?, htake, hdrop, Nat.ofDigitChars_ten_toDigits]

/-! ## Blanks are skipped -/

@[simp] theorem skipBlanks_lineBreak (layout : Layout) (level : Nat) (cs : List Char) :
    skipBlanks (layout.lineBreak level ++ cs) = skipBlanks cs := by
  unfold Layout.lineBreak skipBlanks
  cases layout.indent with
  | none => rfl
  | some n =>
      refine List.dropWhile_append_of_pos fun c hc => ?_
      rcases List.mem_cons.mp hc with rfl | hc
      · rfl
      · rw [List.eq_of_mem_replicate hc]
        rfl

theorem skipBlanks_cons {c : Char} (hc : isBlank c = false) (cs : List Char) :
    skipBlanks (c :: cs) = c :: cs := by simp [skipBlanks, hc]

theorem readValue?_skipBlanks {cs ds : List Char} (h : skipBlanks cs = skipBlanks ds)
    (steps : Nat) : readValue? steps cs = readValue? steps ds := by
  cases steps with
  | zero => rw [readValue?, readValue?]
  | succ steps => rw [readValue?, readValue?, h]

theorem readItems?_skipBlanks {cs ds : List Char} (h : skipBlanks cs = skipBlanks ds)
    (steps : Nat) : readItems? steps cs = readItems? steps ds := by
  cases steps with
  | zero => rw [readItems?, readItems?]
  | succ steps => rw [readItems?, readItems?, readValue?_skipBlanks h]

theorem readMembers?_skipBlanks {cs ds : List Char} (h : skipBlanks cs = skipBlanks ds)
    (steps : Nat) : readMembers? steps cs = readMembers? steps ds := by
  cases steps with
  | zero => rw [readMembers?, readMembers?]
  | succ steps => rw [readMembers?, readMembers?, readName?, readName?, h]

/-- No item starts with the bracket that ends an array. -/
theorem readItems?_close {cs : List Char} (h : (skipBlanks cs).head? = some ']') (steps : Nat) :
    readItems? steps cs = none := by
  obtain ⟨rest, hrest⟩ := List.head?_eq_some_iff.mp h
  cases steps with
  | zero => rw [readItems?]
  | succ steps =>
      have hvalue : readValue? steps cs = none := by
        cases steps with
        | zero => rw [readValue?]
        | succ steps => simp [readValue?, hrest, readWord?]
      rw [readItems?, hvalue]
      rfl

theorem noDigit_lineBreak {cs : List Char} (h : NoDigit cs) (level : Nat) :
    NoDigit (layout.lineBreak level ++ cs) := by
  unfold Layout.lineBreak
  cases layout.indent with
  | none => exact h
  | some n => simp [NoDigit]

/-! ## Documents are read back -/

attribute [local simp] Layout.write

/-- A document is read back from what is written for it. -/
def IsRead (layout : Layout) (doc : Json) : Prop :=
  ∀ level steps rest, (layout.write level doc).length ≤ steps → NoDigit rest →
    readValue? steps (layout.write level doc ++ rest) = some (doc, rest)

variable {level outer steps : Nat}

/-- The first item of an array is read back, and then what follows it. -/
theorem readItems?_write_append {x : Json} (hx : IsRead layout x)
    (hsteps : (layout.write level x).length ≤ steps) {after : List Char} (hafter : NoDigit after) :
    readItems? (steps + 1) (layout.write level x ++ after) = match skipBlanks after with
      | ',' :: rest => (readItems? steps rest).map fun (items, rest) => (x :: items, rest)
      | ']' :: rest => some ([x], rest)
      | _ => none := by
  rw [readItems?, hx level steps after hsteps hafter]
  rfl

/-- The items of an array are read back, up to the bracket behind them. -/
theorem readItems?_write {x : Json} {xs : List Json} (h : ∀ y ∈ x :: xs, IsRead layout y)
    (hsteps : (layout.write level x).length + (layout.writeItems level xs).length < steps)
    (rest : List Char) :
    readItems? steps (layout.write level x ++ (layout.writeItems level xs ++
      (layout.lineBreak outer ++ ']' :: rest))) = some (x :: xs, rest) := by
  induction xs generalizing x steps with
  | nil =>
      cases steps with
      | zero => omega
      | succ steps =>
          rw [Layout.writeItems, List.nil_append,
            readItems?_write_append (h x List.mem_cons_self) (by omega)
              (noDigit_lineBreak (by simp [NoDigit]) outer),
            skipBlanks_lineBreak, skipBlanks_cons rfl]
          rfl
  | cons y ys ih =>
      cases steps with
      | zero => omega
      | succ steps =>
          simp only [Layout.writeItems, List.length_cons, List.length_append] at hsteps
          have hys := @ih steps y (fun z hz => h z (List.mem_cons_of_mem _ hz)) (by omega)
          simp only [Layout.writeItems, List.cons_append, List.append_assoc]
          rw [readItems?_write_append (h x List.mem_cons_self) (by omega) (by simp [NoDigit]),
            skipBlanks_cons rfl]
          simp only [readItems?_skipBlanks (skipBlanks_lineBreak layout level _), hys,
            Option.map_some]

/-- The name of a member is read back, and what follows it as a value is left. -/
theorem readName?_string (layout : Layout) (k : String)
    (hsteps : (layout.string k).length ≤ steps) (rest : List Char) :
    ∃ left, readName? steps (layout.string k ++ (layout.colon ++ rest)) = some (k, left) ∧
      skipBlanks left = skipBlanks rest := by
  have hlength := length_lt_string layout k
  have hchars := readChars?_flatMap layout k.toList (show k.toList.length < steps by omega)
    (layout.colon ++ rest)
  refine ⟨layout.colon.tail ++ rest, ?_, ?_⟩
  · rw [string_append, readName?, skipBlanks_cons rfl]
    simp only [hchars, Option.bind_eq_bind, Option.bind_some, String.ofList_toList]
    cases hindent : layout.indent.isSome <;>
      simp [Layout.colon, hindent, skipBlanks_cons, isBlank]
  · cases hindent : layout.indent.isSome <;> simp [Layout.colon, hindent, skipBlanks, isBlank]

/-- The first member of an object is read back, and then what follows it. -/
theorem readMembers?_write_append {k : String} {x : Json} (hx : IsRead layout x)
    (hsteps : (layout.string k).length + (layout.write level x).length ≤ steps)
    {after : List Char} (hafter : NoDigit after) :
    readMembers? (steps + 1)
        (layout.string k ++ (layout.colon ++ (layout.write level x ++ after))) =
      match skipBlanks after with
      | ',' :: rest =>
        (readMembers? steps rest).map fun (members, rest) => ((k, x) :: members, rest)
      | '\x7d' :: rest => some ([(k, x)], rest)
      | _ => none := by
  obtain ⟨left, hname, hleft⟩ := readName?_string layout k
    (show (layout.string k).length ≤ steps by omega) (layout.write level x ++ after)
  rw [readMembers?, hname, Option.bind_eq_bind, Option.bind_some]
  simp only [readValue?_skipBlanks hleft, hx level steps after (by omega) hafter]
  rfl

/-- The members of an object are read back, up to the brace behind them. -/
theorem readMembers?_write {k : String} {x : Json} {xs : List (String × Json)}
    (h : ∀ p ∈ (k, x) :: xs, IsRead layout p.2)
    (hsteps : (layout.string k).length + (layout.write level x).length +
      (layout.writeMembers level xs).length < steps) (rest : List Char) :
    readMembers? steps (layout.string k ++ (layout.colon ++ (layout.write level x ++
      (layout.writeMembers level xs ++ (layout.lineBreak outer ++ '\x7d' :: rest))))) =
      some ((k, x) :: xs, rest) := by
  have hx : IsRead layout x := h (k, x) List.mem_cons_self
  induction xs generalizing k x steps with
  | nil =>
      cases steps with
      | zero => omega
      | succ steps =>
          rw [Layout.writeMembers, List.nil_append,
            readMembers?_write_append hx (by omega) (noDigit_lineBreak (by simp [NoDigit]) outer),
            skipBlanks_lineBreak, skipBlanks_cons rfl]
          rfl
  | cons q ys ih =>
      obtain ⟨l, y⟩ := q
      cases steps with
      | zero => omega
      | succ steps =>
          simp only [Layout.writeMembers, List.length_cons, List.length_append] at hsteps
          have hys := @ih steps l y
            (fun p hp => h p (List.mem_cons_of_mem _ hp)) (by omega)
            (h (l, y) (List.mem_cons_of_mem _ List.mem_cons_self))
          simp only [Layout.writeMembers, List.cons_append, List.append_assoc]
          rw [readMembers?_write_append hx (by omega) (by simp [NoDigit]), skipBlanks_cons rfl]
          simp only [readMembers?_skipBlanks (skipBlanks_lineBreak layout level _), hys,
            Option.map_some]

theorem isBlank_of_isDigit {c : Char} (hc : c.isDigit = true) : isBlank c = false := by
  rw [Bool.eq_false_iff]
  intro hblank
  simp only [isBlank, Bool.or_eq_true, beq_iff_eq] at hblank
  rcases hblank with ((rfl | rfl) | rfl) | rfl <;> exact absurd hc (by decide)

theorem readValue?_toDigits (n : Nat) {rest : List Char} (hrest : NoDigit rest) :
    readValue? (steps + 1) (Nat.toDigits 10 n ++ rest) = some (.int n, rest) := by
  have hread := readNat?_toDigits n hrest
  cases hdigits : Nat.toDigits 10 n with
  | nil => exact absurd hdigits Nat.toDigits_ne_nil
  | cons c cs =>
      have hc : c.isDigit = true :=
        Nat.isDigit_of_mem_toDigits (by decide) (by decide) (hdigits ▸ List.mem_cons_self)
      rw [hdigits, List.cons_append] at hread
      rw [List.cons_append, readValue?, skipBlanks_cons (isBlank_of_isDigit hc)]
      have hmarks : c ≠ '"' ∧ c ≠ '[' ∧ c ≠ '\x7b' ∧ c ≠ '-' := by
        refine ⟨?_, ?_, ?_, ?_⟩ <;> (rintro rfl; exact absurd hc (by decide))
      simp [hmarks, hc, hread]

theorem toList_toString_int (n : Int) : (toString n).toList =
    if 0 ≤ n then Nat.toDigits 10 n.toNat else '-' :: Nat.toDigits 10 (-n).toNat := by
  rw [Int.toString_eq_repr, Int.repr_eq_if]
  split
  · rw [Nat.toList_repr]
  · rw [String.toList_append, Nat.toList_repr]
    rfl

theorem write_ne_nil (level : Nat) (doc : Json) : layout.write level doc ≠ [] := by
  cases doc with
  | null => simp
  | bool b => cases b <;> simp
  | int n =>
      rw [Layout.write, toList_toString_int]
      split
      · exact Nat.toDigits_ne_nil
      · simp
  | string s => simp [Layout.string]
  | array items => cases items <;> simp
  | object members => cases members <;> simp

/-- A document takes at least one step. -/
theorem IsRead.of_succ {doc : Json} (h : ∀ level steps rest,
    (layout.write level doc).length ≤ steps + 1 → NoDigit rest →
      readValue? (steps + 1) (layout.write level doc ++ rest) = some (doc, rest)) :
    IsRead layout doc := by
  intro level steps rest hsteps hrest
  cases steps with
  | zero =>
      exact absurd (List.length_eq_zero_iff.mp (Nat.le_zero.mp hsteps)) (write_ne_nil level doc)
  | succ steps => exact h level steps rest hsteps hrest

theorem isRead_int (n : Int) : IsRead layout (.int n) := by
  refine .of_succ fun level steps rest _ hrest => ?_
  rw [Layout.write, toList_toString_int]
  split
  · next hn => rw [readValue?_toDigits _ hrest, Int.toNat_of_nonneg hn]
  · next hn =>
      rw [List.cons_append, readValue?, skipBlanks_cons rfl]
      simp only [Char.reduceEq, if_false, if_true, readNat?_toDigits _ hrest, Option.map_some]
      rw [show -((-n).toNat : Int) = n by omega]

theorem isRead_string (s : String) : IsRead layout (.string s) := by
  refine .of_succ fun level steps rest hsteps _ => ?_
  have hlength := length_lt_string layout s
  rw [Layout.write] at hsteps ⊢
  rw [string_append, readValue?, skipBlanks_cons rfl]
  simp [readChars?_flatMap layout s.toList (show _ < steps by omega) rest]

theorem isRead_array {x : Json} {xs : List Json} (h : ∀ y ∈ x :: xs, IsRead layout y) :
    IsRead layout (.array (x :: xs)) := by
  refine .of_succ fun level steps rest hsteps _ => ?_
  simp only [Layout.write, List.length_cons, List.length_append, List.cons_append,
    List.append_assoc, List.nil_append] at hsteps ⊢
  have hitems := @readItems?_write layout (level + 1) level steps x xs h (by omega) rest
  rw [← readItems?_skipBlanks (skipBlanks_lineBreak layout (level + 1) _)] at hitems
  rw [readValue?, skipBlanks_cons rfl]
  by_cases hclose : (skipBlanks (layout.lineBreak (level + 1) ++ (layout.write (level + 1) x ++
      (layout.writeItems (level + 1) xs ++ (layout.lineBreak level ++ ']' :: rest))))).head? =
      some ']'
  · rw [readItems?_close hclose] at hitems
    exact absurd hitems (by simp)
  · simp only [if_neg hclose, hitems]
    rfl

theorem isRead_object {k : String} {x : Json} {xs : List (String × Json)}
    (h : ∀ p ∈ (k, x) :: xs, IsRead layout p.2) : IsRead layout (.object ((k, x) :: xs)) := by
  refine .of_succ fun level steps rest hsteps _ => ?_
  simp only [Layout.write, List.length_cons, List.length_append, List.cons_append,
    List.append_assoc, List.nil_append] at hsteps ⊢
  have hmembers := @readMembers?_write layout (level + 1) level steps k x xs h (by omega) rest
  rw [← readMembers?_skipBlanks (skipBlanks_lineBreak layout (level + 1) _)] at hmembers
  rw [readValue?, skipBlanks_cons rfl]
  have hopen : ∀ cs, (skipBlanks (layout.lineBreak (level + 1) ++ (layout.string k ++ cs))).head? ≠
      some '\x7d' := by
    intro cs
    rw [skipBlanks_lineBreak, string_append, skipBlanks_cons rfl]
    simp
  simp only [if_neg (hopen _), hmembers]
  rfl

/-- Every document is read back from what is written for it. -/
theorem isRead (layout : Layout) : (doc : Json) → IsRead layout doc
  | .null => .of_succ fun _ _ _ _ _ => by
    simp [readValue?, skipBlanks_cons, isBlank, readWord?]
  | .bool b => .of_succ fun _ _ _ _ _ => by
    cases b <;> simp [readValue?, skipBlanks_cons, isBlank, readWord?]
  | .int n => isRead_int n
  | .string s => isRead_string s
  | .array [] => .of_succ fun _ _ _ _ _ => by
    simp [readValue?, skipBlanks_cons, isBlank]
  | .array (x :: xs) => isRead_array fun y hy => isRead layout y
  | .object [] => .of_succ fun _ _ _ _ _ => by
    simp [readValue?, skipBlanks_cons, isBlank]
  | .object ((k, x) :: xs) => isRead_object fun p hp => isRead layout p.2
termination_by doc => sizeOf doc
decreasing_by
  · have hlt := List.sizeOf_lt_of_mem hy
    simp only [array.sizeOf_spec]
    omega
  · have hlt := List.sizeOf_lt_of_mem hp
    obtain ⟨name, value⟩ := p
    simp only [object.sizeOf_spec, Prod.mk.sizeOf_spec] at hlt ⊢
    omega

/-- Reading undoes writing, in every layout. -/
theorem parse_write (layout : Layout) (doc : Json) :
    parse (String.ofList (layout.write 0 doc)) = some doc := by
  have hread := isRead layout doc 0 ((layout.write 0 doc).length + 1) []
    (Nat.le_succ _) (by simp [NoDigit])
  rw [List.append_nil] at hread
  simp [parse, hread, skipBlanks]

/-- What is shown and saved of a document is read back as the document. -/
theorem parse_toPage (doc : Json) : parse doc.toPage = some doc := parse_write .page doc

end Json

end TypeSchema
