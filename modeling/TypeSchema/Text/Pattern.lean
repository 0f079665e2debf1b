import TypeSchema.Text.Pattern.Escape
/-!
# Patterns

The grammar of regular expressions, as far as is needed to tell whether a text is one.
`Pattern.check` reads alternatives of sequences of repeated items. Among what it refuses:

* a repetition with nothing before it, or after another repetition, or with crossed bounds;
* parentheses and brackets that do not match, and ranges whose ends are crossed;
* unknown escapes, and mentions of groups that do not exist or are still open;
* options in the middle of a pattern, and options that exclude each other;
* a look behind whose width is not fixed.

The readers are driven by a budget of steps which is more than any text can use, since each step
but the last on its level takes a token.
-/

namespace TypeSchema.Text.Pattern

/-- The part of a sequence that a repetition would repeat. -/
inductive ItemKind where
  /-- A place between characters, which is not repeated. -/
  | position
  /-- What is repeated already. -/
  | repeated
  | other
  deriving DecidableEq, Repr

/-- What a token starts. -/
inductive Part where
  | item (kind : ItemKind) (width : Width)
  | repetition (low high : Nat)
  /-- Nothing that counts; from here on the pattern may be `spaced`. -/
  | nothing (spaced : Bool)
  deriving Repr

/-- A character that does not count in a spaced pattern. -/
def isSpace (c : Char) : Bool := " \t\n\r\x0b\x0c".toList.contains c

/-- The letters of options. -/
def isOption (c : Char) : Bool := "aiLmstux".toList.contains c

/-- A bound of a repetition, if it is written. -/
def bound (digits : List Char) : Reader (Option Nat) := do
  if digits.isEmpty then return none
  if 4300 < digits.length then throw (.tooManyDigits digits.length)
  let n := Escape.number 10 digits
  if n < Width.unbounded then return some n else throw .repetitionTooLarge

/-- What an opening brace starts: bounds, or else a character like any other. -/
def braces : Reader Part := do
  let here ← get
  let plain : Reader Part := do
    set here
    return .item .other .one
  let length := here.rest.length
  if here.rest.head? = some ['\x7d'] then plain
  else
    let low ← Reader.takeWhile length Char.isDigit
    let high ← if ← Reader.accept ',' then Reader.takeWhile length Char.isDigit else pure low
    if ← Reader.accept '\x7d' then
      let low ← bound low
      let high ← bound high
      match low, high with
      | some l, some h => if h < l then Reader.refuse else return .repetition l h
      | _, _ => return .repetition (low.getD 0) (high.getD Width.unbounded)
    else plain

/-- The options that a group sets for itself or, if it ends here, for the whole pattern. -/
structure GroupOptions where
  added : List Char
  removed : List Char
  whole : Bool

/-- Whether a letter is among the options of a group that choose a set of characters. -/
def isAlphabetOption (c : Char) : Bool := c = 'a' || c = 'u' || c = 'L'

/-- The options of a group, of which the first character was taken. -/
def groupOptions (first : Char) : Reader GroupOptions := do
  let length := (← get).rest.length
  let more ← if first = '-' then pure [] else Reader.takeWhile length isOption
  let added := if first = '-' then [] else first :: more
  if added.contains 'L' || (added.contains 'a' && added.contains 'u') then Reader.refuse
  if first ≠ '-' then
    if ← Reader.accept ')' then return ⟨added, [], true⟩
  if added.contains 't' then Reader.refuse
  let removed ←
    if first = '-' then Reader.takeWhile length isOption
    else if ← Reader.accept '-' then Reader.takeWhile length isOption
    else
      Reader.expect ':'
      return ⟨added, [], false⟩
  Reader.expect ':'
  if removed.isEmpty || removed.any isAlphabetOption || removed.contains 't' ||
      added.any removed.contains then Reader.refuse
  return ⟨added, removed, false⟩

/-- Set options for the whole pattern. -/
def setOptions (letters : List Char) : Reader Unit :=
  modify fun s =>
    { s with
      options :=
        { ascii := s.options.ascii || letters.contains 'a'
          unicode := s.options.unicode || letters.contains 'u'
          spaced := s.options.spaced || letters.contains 'x'
          template := s.options.template || letters.contains 't' } }

/-- The group that a condition mentions, by its name or its number. -/
def condition : Reader Nat := do
  let name ← Reader.takeUntil ')'
  let group ←
    if Identifier.isValid name then
      match (← get).names.lookup (String.ofList name) with
      | some group => pure group
      | none => Reader.refuse
    else
      match Numeral.integer? name with
      | some (.ofNat (n + 1)) => do
        modify fun s => { s with promised := (n + 1) :: s.promised }
        pure (n + 1)
      | _ => Reader.refuse
  Reader.checkBehind group
  return group

mutual

/-- Alternatives with bars between them; those of the whole pattern are `outermost`. -/
def alternatives : (budget : Nat) → (outermost first spaced : Bool) → Reader Width
  | 0, _, _, _ => Reader.refuse
  | budget + 1, outermost, first, spaced => do
    let width ← sequence budget first spaced .zero none
    if ← Reader.accept '|' then
      let options := (← get).options
      -- Options for the whole pattern hold for the alternatives after them.
      let spaced := if outermost then options.spaced else spaced
      return width.either (← alternatives budget outermost false spaced)
    else return width

/-- Items, one after the other, after others of the width `before` and the item `last`. -/
def sequence : (budget : Nat) → (first spaced : Bool) → (before : Width) →
    (last : Option (ItemKind × Width)) → Reader Width
  | 0, _, _, _, _ => Reader.refuse
  | budget + 1, first, spaced, before, last => do
    let width := match last with
      | some (_, w) => before.append w
      | none => before
    match ← Reader.peek with
    | none | some ['|'] | some [')'] => return width.capped
    | some token =>
      Reader.skip 1
      match ← part budget (first && last.isNone) spaced token with
      | .nothing spaced => sequence budget first spaced before last
      | .item kind w => sequence budget first spaced width (some (kind, w))
      | .repetition low high =>
        match last with
        | some (.other, w) => do
          if !(← Reader.accept '?') then
            let _ ← Reader.accept '+'
          modify fun s => { s with repeats := true }
          sequence budget first spaced before (some (.repeated, w.repeated low high))
        | _ => Reader.refuse

/-- What a token starts. Options for the whole pattern may stand only `first` in it. -/
def part : (budget : Nat) → (first spaced : Bool) → (token : List Char) → Reader Part
  | 0, _, _, _ => Reader.refuse
  | budget + 1, first, spaced, token => do
    match token with
    | ['\\', c] =>
      match ← Escape.read c with
      | .position => return .item .position .zero
      | .group width => return .item .other width
      | _ => return .item .other .one
    | [c] =>
      if spaced && isSpace c then return .nothing spaced
      if spaced && c = '#' then
        let comment := (← get).rest.takeWhile (· ≠ ['\n'])
        Reader.skip (comment.length + 1)
        return .nothing spaced
      match c with
      | '^' | '$' => return .item .position .zero
      | '*' => return .repetition 0 Width.unbounded
      | '+' => return .repetition 1 Width.unbounded
      | '?' => return .repetition 0 1
      | '\x7b' => braces
      | '[' => do
        let _ ← Reader.accept '^'
        readClass ((← get).rest.length + 1) true
        return .item .other .one
      | '(' =>
        if ← Reader.accept '?' then extension budget first spaced
        else capture budget none spaced
      | _ => return .item .other .one
    | _ => Reader.refuse

/-- The rest of a group, up to its closing parenthesis. -/
def inner : (budget : Nat) → (spaced : Bool) → Reader Width
  | 0, _ => Reader.refuse
  | budget + 1, spaced => do
    let width ← alternatives budget false false spaced
    Reader.expect ')'
    return width

/-- The rest of a group that is remembered. -/
def capture : (budget : Nat) → (name : Option String) → (spaced : Bool) → Reader Part
  | 0, _, _ => Reader.refuse
  | budget + 1, name, spaced => do
    let group ← Reader.openGroup name
    let width ← inner budget spaced
    Reader.closeGroup group width
    return .item .other width

/-- A group that starts with a question mark, after it. -/
def extension : (budget : Nat) → (first spaced : Bool) → Reader Part
  | 0, _, _ => Reader.refuse
  | budget + 1, first, spaced => do
    match ← Reader.next with
    | some ['P'] =>
      if ← Reader.accept '<' then capture budget (some (← Reader.groupName '>')) spaced
      else
        Reader.expect '='
        match (← get).names.lookup (← Reader.groupName ')') with
        | some group => return .item .other (← Reader.mention group)
        | none => Reader.refuse
    | some [':'] | some ['>'] => return .item .other (← inner budget spaced)
    | some ['#'] => do
      let rest := (← get).rest
      let comment := rest.takeWhile (· ≠ [')'])
      if comment.length = rest.length then Reader.refuse
      Reader.skip (comment.length + 1)
      return .nothing spaced
    | some ['='] | some ['!'] => do
      let _ ← inner budget spaced
      return .item .other .zero
    | some ['<'] => do
      if !(← Reader.accept '=') then Reader.expect '!'
      let outer := (← get).behind
      -- Groups that are opened from here on must not be mentioned inside.
      modify fun s => { s with behind := some (s.behind.getD s.groups.length) }
      let width ← alternatives budget false false spaced
      modify fun s =>
        { s with
          behind := outer
          uneven := s.uneven || width.low ≠ width.high || Width.unbounded < width.low }
      Reader.expect ')'
      return .item .other .zero
    | some ['('] => do
      let _ ← condition
      let yes ← sequence budget false spaced .zero none
      let no ← if ← Reader.accept '|' then sequence budget false spaced .zero none
        else pure .zero
      Reader.expect ')'
      return .item .other (yes.either no)
    | some [c] =>
      if isOption c || c = '-' then
        let options ← groupOptions c
        if options.whole then
          unless first do Reader.refuse
          setOptions options.added
          return .nothing (← get).options.spaced
        else
          let spaced := (spaced || options.added.contains 'x') && !options.removed.contains 'x'
          return .item .other (← inner budget spaced)
      else Reader.refuse
    | _ => Reader.refuse

end

/-- The whole of a pattern. -/
def whole (budget : Nat) : Reader Unit := do
  Reader.skip 0
  let _ ← alternatives budget true true false
  let s ← get
  if s.options.ascii && s.options.unicode then throw .incompatibleOptions
  if !s.rest.isEmpty || s.promised.any (s.groups.length < ·) || s.uneven ||
      s.options.template && s.repeats then Reader.refuse

/-- Refuse a text that is no pattern. -/
def check (s : String) : Except Fault Unit :=
  let ts := tokens s.toList
  let scan : Scan :=
    { rest := ts, groups := [], names := [], behind := none, promised := []
      options := ⟨false, false, false, false⟩, repeats := false, uneven := false }
  (whole (6 * ts.length + 6)).run' scan

/-- Whether a text is a pattern. -/
def isValid (s : String) : Bool := (check s).isOk

end TypeSchema.Text.Pattern
