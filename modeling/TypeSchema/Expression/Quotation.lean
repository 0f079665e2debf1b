import TypeSchema.Expression.Token
import TypeSchema.Text.CharacterName
/-!
# What stands between quotes

`Quotation.read` turns the characters between quotes, as they are written, into a text or into
bytes: a backslash and what follows it stand for a character that the quotes could not hold. An
unknown escape stands for itself.

Faults name the place of an escape by the length of what stands before it, where a character
outside ASCII counts as the ten characters of its escape.
-/

namespace TypeSchema.Quotation

/-- A digit in base sixteen. -/
def isHex (c : Char) : Bool := c.isDigit || ('a' ≤ c.toLower && c.toLower ≤ 'f')

/-- A digit in base eight. -/
def isOctal (c : Char) : Bool := '0' ≤ c && c ≤ '7'

/-- The number that digits spell in a base. -/
def number (base : Nat) (ds : List Char) : Nat :=
  ds.foldl (fun n d => base * n + Text.Table.digit d) 0

/-- The places that a character takes. -/
def places (c : Char) : Nat := if c.toNat < 0x80 then 1 else 10

/-- The character of a one-letter escape. -/
def letter? : Char → Option Char
  | '\\' => some '\\' | '\'' => some '\'' | '"' => some '"'
  | 'a' => some '\x07' | 'b' => some '\x08' | 'f' => some '\x0c' | 'n' => some '\n'
  | 'r' => some '\r' | 't' => some '\t' | 'v' => some '\x0b'
  | _ => none

/-- The number of digits after the letter of an escape by number, and what is wrong if there
are fewer. -/
def width? : Char → Option (Nat × EscapeFault)
  | 'x' => some (2, .shortByte)
  | 'u' => some (4, .shortUnit)
  | 'U' => some (8, .shortPoint)
  | _ => none

/-- The text that some characters stand for, read in at most `steps` steps from a place on. -/
def decode : (steps place : Nat) → List Char → Except Fault (List Char)
  | 0, _, cs => .ok cs
  | _, _, [] => .ok []
  | steps + 1, place, '\\' :: c :: cs =>
    if c = '\n' then decode steps (place + 2) cs
    else if isOctal c then
      let ds := c :: (cs.take 2).takeWhile isOctal
      return Char.ofNat (number 8 ds) ::
        (← decode steps (place + 1 + ds.length) ((c :: cs).drop ds.length))
    else match letter? c, width? c with
      | some d, _ => return d :: (← decode steps (place + 2) cs)
      | none, some (width, short) =>
        let ds := (cs.take width).takeWhile isHex
        let last := place + 1 + ds.length
        if ds.length < width then .error (.invalidEscape place last short)
        else if 0x110000 ≤ number 16 ds then .error (.invalidEscape place last .noCharacter)
        else return Char.ofNat (number 16 ds) :: (← decode steps (last + 1) (cs.drop width))
      | none, none =>
        if c = 'N' then
          match cs with
          | '\x7b' :: rest =>
            let name := rest.takeWhile (· ≠ '\x7d')
            let last := place + 2 + (name.map places).sum
            match rest.drop name.length with
            | [] => .error (.invalidEscape place last .malformedName)
            | _ :: rest =>
              if name.isEmpty then .error (.invalidEscape place last .malformedName)
              else match Text.CharacterName.find? name with
                | some n => return Char.ofNat n :: (← decode steps (last + 2) rest)
                | none => .error (.invalidEscape place (last + 1) .unknownName)
          | _ => .error (.invalidEscape place (place + 1) .malformedName)
        else
          let before := if c.toNat < 0x80 then 1 else 6
          return '\\' :: c :: (← decode steps (place + before + places c) cs)
  | steps + 1, place, c :: cs => return c :: (← decode steps (place + places c) cs)

/-- The bytes that some characters stand for, read in at most `steps` steps from a place on. -/
def decodeBytes : (steps place : Nat) → List Char → Except Fault (List UInt8)
  | 0, _, _ => .ok []
  | _, _, [] => .ok []
  | steps + 1, place, '\\' :: c :: cs =>
    if c = '\n' then decodeBytes steps (place + 2) cs
    else if isOctal c then
      let ds := c :: (cs.take 2).takeWhile isOctal
      return (number 8 ds).toUInt8 ::
        (← decodeBytes steps (place + 1 + ds.length) ((c :: cs).drop ds.length))
    else match letter? c with
      | some d => return d.toNat.toUInt8 :: (← decodeBytes steps (place + 2) cs)
      | none =>
        if c = 'x' then
          let ds := (cs.take 2).takeWhile isHex
          if ds.length < 2 then .error (.invalidByteEscape place)
          else return (number 16 ds).toUInt8 :: (← decodeBytes steps (place + 4) (cs.drop 2))
        else return 0x5c :: (← decodeBytes steps (place + 1) (c :: cs))
  | steps + 1, place, c :: cs => return c.toNat.toUInt8 :: (← decodeBytes steps (place + 1) cs)

/-! ## Formatted texts -/

/-- A part of a formatted text as it is written. -/
inductive Piece where
  | text (cs : List Char)
  /-- A field: the text of its value, whether that text is shown before it, how the value is
  converted, and the format it is given. -/
  | field (source : List Char) (isShown : Bool) (conversion : Option Char)
      (format : Option (List Piece))
  deriving Inhabited, Repr

/-- The brackets that may be open inside a field: quotes, of which there may be three, and others. -/
structure FieldState where
  quote : Option (Char × Bool)
  opened : List Char
  deriving Inhabited, Repr

/-- The text of the value of a field, and what follows it: the sign that ends it comes first. -/
def fieldSource (state : FieldState) : List Char → Except Fault (List Char × List Char)
  | [] =>
    .error (if state.quote.isSome then .unterminatedInField else match state.opened with
      | c :: _ => .unmatchedInField c
      | [] => .unmatchedBrace false)
  | c :: cs =>
    let go (state : FieldState) : Except Fault (List Char × List Char) := do
      let (source, rest) ← fieldSource state cs
      return (c :: source, rest)
    if c = '\\' then .error .backslashInField
    else match state.quote with
      | some (q, isTriple) =>
        if c = q ∧ !isTriple then go { state with quote := none }
        else match cs with
          | d :: e :: _ =>
            if c = q ∧ d = q ∧ e = q then go { state with quote := some (q, false) }
            else go state
          | _ => go state
      | none =>
        if c = '\'' ∨ c = '"' then go { state with quote := some (c, false) }
        else if c = '(' ∨ c = '[' ∨ c = '\x7b' then
          go { state with opened := c :: state.opened }
        else if c = '#' then .error .commentInField
        else match state.opened with
          | opening :: others =>
            if c = ')' ∨ c = ']' ∨ c = '\x7d' then
              if Token.closing opening = c then go { state with opened := others }
              else .error (.mismatched c opening none)
            else go state
          | [] =>
            -- Comparisons that hold one of the ending signs belong to the value.
            let isDouble := (c = '!' ∨ c = '=' ∨ c = '<' ∨ c = '>') ∧ cs.head? = some '='
            if isDouble then
              match cs with
              | d :: rest => do
                let (source, rest) ← fieldSource state rest
                return (c :: d :: source, rest)
              | [] => go state
            else if c = '!' ∨ c = ':' ∨ c = '=' ∨ c = '\x7d' then .ok ([], c :: cs)
            else if c = ')' ∨ c = ']' then .error (.unmatchedInField c)
            else go state

/-- The blanks at the start of a text, and what follows them. -/
def blanks (cs : List Char) : List Char × List Char :=
  (cs.takeWhile Text.isBlank, cs.dropWhile Text.isBlank)

/-- The parts of a formatted text, or of a format inside one, read in at most `steps` steps; what
follows a format is returned beside it. -/
def pieces (raw : Bool) : (steps level : Nat) → List Char → Except Fault (List Piece × List Char)
  | 0, _, cs => .ok ([], cs)
  | _, 0, [] => .ok ([], [])
  | _, _ + 1, [] => .error (.unmatchedBrace false)
  | steps + 1, level, c :: cs => do
    let literal (text rest : List Char) : Except Fault (List Piece × List Char) := do
      match ← pieces raw steps level rest with
      | (.text more :: others, rest) => return (.text (text ++ more) :: others, rest)
      | (others, rest) => return (.text text :: others, rest)
    match c, cs with
    | '\\', 'N' :: '\x7b' :: rest =>
      if raw then literal ['\\', 'N'] ('\x7b' :: rest)
      else
        let name := rest.takeWhile (· ≠ '\x7d')
        literal ('\\' :: 'N' :: '\x7b' :: name ++ (rest.drop name.length).take 1)
          (rest.drop (name.length + 1))
    | '\\', d :: rest =>
      if raw || d = '\x7b' || d = '\x7d' then literal ['\\'] (d :: rest)
      else literal ['\\', d] rest
    | '\x7b', cs =>
      -- A doubled brace is text, but not inside a format.
      if level = 0 ∧ cs.head? = some '\x7b' then literal ['\x7b'] (cs.drop 1)
      else if 1 < level then throw .nestedFields
      else
        let (source, rest) ← fieldSource ⟨none, []⟩ cs
        if source.all Text.isBlank then throw .emptyField
        let (shown, rest) := match rest with
          | '=' :: rest =>
            let (skipped, rest) := blanks rest
            (some (source ++ '=' :: skipped), rest)
          | rest => (none, rest)
        let (conversion, rest) ← match rest with
          | '!' :: k :: rest =>
            if k = 's' ∨ k = 'r' ∨ k = 'a' then pure (some k, rest) else throw .unknownConversion
          | rest => pure (none, rest)
        let (format, rest) ← match rest with
          | ':' :: rest => do
            let (inside, rest) ← pieces raw steps (level + 1) rest
            pure (some inside, rest)
          | rest => pure (none, rest)
        match rest with
        | '\x7d' :: rest => do
          let (others, rest) ← pieces raw steps level rest
          let field := Piece.field source shown.isSome conversion format
          return ((shown.toList.map Piece.text) ++ field :: others, rest)
        | _ => throw (.unmatchedBrace false)
    | '\x7d', cs =>
      if 0 < level then return ([], '\x7d' :: cs)
      else if cs.head? = some '\x7d' then literal ['\x7d'] (cs.drop 1)
      else throw (.unmatchedBrace true)
    | c, cs => literal [c] cs

/-- The characters that those between quotes stand for. -/
def plainText (raw : Bool) (cs : List Char) : Except Fault String := do
  return String.ofList (← if raw then .ok cs else decode cs.length 0 cs)

/-- What a quoted text stands for that is not formatted. -/
def read (marks : QuoteMarks) (body : List Char) : Except Fault Constant := do
  if marks.bytes then
    if body.any fun c => 0x80 ≤ c.toNat then throw .wideByte
    else if marks.raw then return .bytes (body.map fun c => c.toNat.toUInt8)
    else return .bytes (← decodeBytes body.length 0 body)
  else return .string (← plainText marks.raw body)

end TypeSchema.Quotation
