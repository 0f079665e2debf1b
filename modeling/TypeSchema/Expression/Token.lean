import TypeSchema.Expression.Fault
import TypeSchema.Text.Compatibility
import TypeSchema.Text.Identifier
import TypeSchema.Text.Table
import TypeSchema.Typing.Constant
/-!
# Tokens of written expressions

`Token.ofText` takes a text apart into names, numbers, quoted texts and symbols. A fault in the
characters becomes a token too, the last one, so that a reader meets it only if it gets there.

* Blanks separate tokens; inside brackets line breaks are blanks as well. Outside brackets a
  line ends with a `lineEnd`, and a line that starts with a blank starts with an `indent`.
* A name counts in its compatibility form.
* What stands between quotes is kept as written; `TypeSchema.Expression.Quotation` reads it.
-/

namespace TypeSchema

/-- What the letters before a quote ask for. -/
structure QuoteMarks where
  raw : Bool
  bytes : Bool
  formatted : Bool
  deriving DecidableEq, Repr

/-- A token of a written expression. -/
inductive Token where
  | keyword (word : String)
  | name (text : String)
  | number (value : Constant)
  | text (marks : QuoteMarks) (body : List Char)
  | symbol (sign : String)
  | lineEnd
  | indent
  | broken (fault : Fault)
  deriving DecidableEq, Repr

/-- A token and the number of brackets that are open before it. -/
structure Lexeme where
  token : Token
  depth : Nat
  deriving DecidableEq, Repr

namespace Token

/-- The words that are no names. -/
def keywords : List String :=
  ["False", "None", "True", "and", "as", "assert", "async", "await", "break", "class",
   "continue", "def", "del", "elif", "else", "except", "finally", "for", "from", "global", "if",
   "import", "in", "is", "lambda", "nonlocal", "not", "or", "pass", "raise", "return", "try",
   "while", "with", "yield"]

/-- A character that a name or number may not end before. -/
def continuesWord (c : Char) : Bool := c.isAlphanum || c == '_' || 0x80 ≤ c.toNat

/-- A character that starts a name, whether or not it is allowed there. -/
def startsWord (c : Char) : Bool := c.isAlpha || c == '_' || 0x80 ≤ c.toNat

/-! ## Numbers -/

/-- The digits at the start of a text; single underscores may stand between them. -/
def digitRun (isDigit : Char → Bool) : List Char → List Char × List Char
  | [] => ([], [])
  | c :: cs =>
    if isDigit c then
      let (ds, rest) := digitRun isDigit cs
      (c :: ds, rest)
    else match c, cs with
      | '_', d :: _ =>
        if isDigit d then digitRun isDigit cs else ([], c :: cs)
      | _, _ => ([], c :: cs)

/-- The words that may stand right after a number. -/
def wordsAfterNumber : List String := ["and", "else", "for", "not", "or"]

/-- Whether a number may end before a text. -/
def mayEndBefore (cs : List Char) : Bool :=
  match cs with
  | [] => true
  | 'i' :: c :: _ =>
    c == 'f' || c == 'n' || c == 's'
  | c :: _ =>
    !(c.isAlphanum || c == '_') ||
      wordsAfterNumber.any fun word =>
        word.toList.isPrefixOf cs && !(cs.drop word.length).head?.any continuesWord

/-- A number of a kind that ends before a text, if it may. -/
def ending {α : Type} (kind : String) (value : α) (rest : List Char) :
    Except Fault (α × List Char) :=
  if mayEndBefore rest then .ok (value, rest) else .error (.invalidNumber kind)

/-- A whole number in a base other than ten, after its first two characters. -/
def based (kind : String) (base : Nat) (isDigit : Char → Bool) (cs : List Char) :
    Except Fault (Constant × List Char) :=
  let cs := match cs with
    | '_' :: rest => rest
    | cs => cs
  let refuse (rest : List Char) : Fault :=
    if base ≠ 16 ∧ rest.head?.any Char.isDigit then .invalidDigit (rest.headD '0') kind
    else .invalidNumber kind
  if !cs.head?.any isDigit then .error (refuse cs)
  else
    let (ds, rest) := digitRun isDigit cs
    match rest with
    | '_' :: rest => .error (refuse rest)
    | rest =>
      if base ≠ 16 ∧ rest.head?.any Char.isDigit then .error (refuse rest)
      else ending kind (.int (ds.foldl (fun n d => base * n + Text.Table.digit d) 0)) rest

/-- Decimal digits, which no underscore may follow. -/
def decimalRun (cs : List Char) : Except Fault (List Char × List Char) :=
  match digitRun Char.isDigit cs with
  | (_, '_' :: _) => .error (.invalidNumber "decimal")
  | run => .ok run

/-- The number that decimal digits spell. -/
def decimal (ds : List Char) : Nat := ds.foldl (fun n d => 10 * n + Text.Table.digit d) 0

/-- A number with a point or an exponent, or a whole one: its digits before and after the point,
its exponent, and whether it has a point or an exponent. -/
def finishNumber (whole fraction : List Char) (exponent : Int) (isFloat : Bool)
    (cs : List Char) : Except Fault (Constant × List Char) :=
  let float := Binary64.ofDecimal (decimal (whole ++ fraction)) (exponent - fraction.length)
  match cs with
  | 'j' :: rest | 'J' :: rest => ending "imaginary" (.complex ⟨0⟩ float) rest
  | cs =>
    if isFloat then ending "decimal" (.float float) cs
    else
      -- Leading zeros are only taken if all digits are zeros.
      let zeros := whole.length > 1 && whole.head? == some '0' && whole.any (· ≠ '0')
      if zeros then .error .leadingZeros
      else ending "decimal" (.int (decimal whole)) cs

/-- The exponent of a number, if one is written, and the end of the number. -/
def exponentPart (whole fraction : List Char) (isFloat : Bool) (cs : List Char) :
    Except Fault (Constant × List Char) :=
  match cs with
  | e :: rest =>
    if e = 'e' ∨ e = 'E' then
      match rest with
      | sign :: d :: _ =>
        if sign = '+' ∨ sign = '-' then
          if d.isDigit then do
            let (ds, rest) ← decimalRun (rest.drop 1)
            let size : Int := decimal ds
            finishNumber whole fraction (if sign = '-' then -size else size) true rest
          else .error (.invalidNumber "decimal")
        else if sign.isDigit then do
          let (ds, rest) ← decimalRun rest
          finishNumber whole fraction (decimal ds) true rest
        -- No exponent: the letter starts a word that may follow a number.
        else if mayEndBefore cs then finishNumber whole fraction 0 isFloat cs
        else .error (.invalidNumber "decimal")
      | [d] =>
        if d.isDigit then finishNumber whole fraction (decimal [d]) true []
        else .error (.invalidNumber "decimal")
      | [] => .error (.invalidNumber "decimal")
    else finishNumber whole fraction 0 isFloat cs
  | [] => finishNumber whole fraction 0 isFloat []

/-- The number at the start of a text, which starts with a digit or with a point and a digit. -/
def number? (cs : List Char) : Except Fault (Constant × List Char) :=
  match cs with
  | '0' :: 'x' :: rest | '0' :: 'X' :: rest =>
    based "hexadecimal" 16 (fun c => c.isDigit || ('a' ≤ c.toLower && c.toLower ≤ 'f')) rest
  | '0' :: 'o' :: rest | '0' :: 'O' :: rest =>
    based "octal" 8 (fun c => '0' ≤ c && c ≤ '7') rest
  | '0' :: 'b' :: rest | '0' :: 'B' :: rest =>
    based "binary" 2 (fun c => c == '0' || c == '1') rest
  | cs => do
    let (whole, rest) ← decimalRun cs
    match rest with
    | '.' :: rest => do
      let (fraction, rest) ←
        if rest.head?.any Char.isDigit then decimalRun rest else .ok ([], rest)
      exponentPart whole fraction true rest
    | rest => exponentPart whole [] false rest

/-! ## Quoted texts -/

/-- The letters before a quote, if a text starts with such letters and a quote. -/
def quoteMarks? (marks : QuoteMarks) (unicode : Bool) : List Char → Option (QuoteMarks × List Char)
  | [] => none
  | c :: cs =>
    if c = '\'' ∨ c = '"' then some (marks, c :: cs)
    else
      let low := c.toLower
      if low = 'b' ∧ !(marks.bytes || unicode || marks.formatted) then
        quoteMarks? { marks with bytes := true } unicode cs
      else if low = 'u' ∧ !(marks.bytes || unicode || marks.raw || marks.formatted) then
        quoteMarks? marks true cs
      else if low = 'r' ∧ !(marks.raw || unicode) then
        quoteMarks? { marks with raw := true } unicode cs
      else if low = 'f' ∧ !(marks.formatted || marks.bytes || unicode) then
        quoteMarks? { marks with formatted := true } unicode cs
      else none

/-- What stands before the closing quote of a text on one line, and what after it. -/
def lineBody? (quote : Char) : List Char → Option (List Char × List Char)
  | [] => none
  | '\\' :: c :: cs => (lineBody? quote cs).map fun (body, rest) => ('\\' :: c :: body, rest)
  | c :: cs =>
    if c = quote then some ([], cs)
    else if c = '\n' then none
    else (lineBody? quote cs).map fun (body, rest) => (c :: body, rest)

/-- What stands before three closing quotes, and what after them. -/
def blockBody? (quote : Char) : List Char → Option (List Char × List Char)
  | [] => none
  | '\\' :: c :: cs => (blockBody? quote cs).map fun (body, rest) => ('\\' :: c :: body, rest)
  | c :: cs =>
    if (c :: cs).take 3 = [quote, quote, quote] then some ([], cs.drop 2)
    else (blockBody? quote cs).map fun (body, rest) => (c :: body, rest)

/-- The quoted text at the start of a text. -/
def quoted (line lastLine : Nat) : List Char → Except Fault (List Char × List Char)
  | [] => .error (.unterminatedText line)
  | q :: cs =>
    match cs with
    | a :: b :: rest =>
      if a = q ∧ b = q then
        match blockBody? q rest with
        | some found => .ok found
        | none => .error (.unterminatedBlock lastLine)
      else match lineBody? q cs with
        | some found => .ok found
        | none => .error (.unterminatedText line)
    | cs =>
      match lineBody? q cs with
      | some found => .ok found
      | none => .error (.unterminatedText line)

/-! ## Symbols -/

/-- The signs of three and of two characters. -/
def longSigns : List String :=
  ["...", "**=", "//=", "<<=", ">>=", "**", "//", "<<", ">>", "<=", ">=", "==", "!=", "->",
   "+=", "-=", "*=", "/=", "%=", "&=", "|=", "^=", "@=", ":=", "<>"]

/-- The sign at the start of a text. -/
def sign (c : Char) (cs : List Char) : String × List Char :=
  match longSigns.find? fun s => s.toList.isPrefixOf (c :: cs) with
  | some s => (s, (c :: cs).drop s.length)
  | none => (c.toString, cs)

/-- The bracket that closes an opening one. -/
def closing : Char → Char
  | '(' => ')'
  | '[' => ']'
  | _ => '\x7d'

/-! ## The tokens of a text -/

/-- The token that a name or keyword is. -/
def ofWord (word : List Char) : Token :=
  let text := String.ofList word
  if keywords.contains text then .keyword text
  else match Text.Identifier.firstInvalid? word with
    | some c => .broken (.ofCharacter c)
    | none => .name (Text.Compatibility.ofName text)

/-- The number of line breaks in a text. -/
def lineBreaks (cs : List Char) : Nat := cs.count '\n'

/-- Whether a line that ends in a line break or a comment holds nothing else but blanks. -/
def isBlankLine (cs : List Char) : Bool :=
  match cs.dropWhile fun c => c == ' ' || c == '\t' || c == '\x0c' with
  | '\n' :: _ | '#' :: _ => true
  | _ => false

/-- The tokens of a text, read in at most `steps` steps; `open'` holds the open brackets with
their lines, and `fresh` says whether a line starts. -/
def lex (lastLine : Nat) :
    (steps : Nat) → (open' : List (Char × Nat)) → (line : Nat) → (fresh : Bool) → List Char →
      List Lexeme
  | 0, open', _, _, _ => [⟨.broken .invalid, open'.length⟩]
  | _, open', _, fresh, [] =>
    match open' with
    | (c, _) :: _ => [⟨.broken (.neverClosed c), open'.length⟩]
    | [] => if fresh then [] else [⟨.lineEnd, 0⟩]
  | steps + 1, open', line, fresh, c :: cs =>
    let depth := open'.length
    let fail (fault : Fault) : List Lexeme := [⟨.broken fault, depth⟩]
    if fresh && depth == 0 && isBlankLine (c :: cs) then
      let rest := (c :: cs).dropWhile (· ≠ '\n')
      lex lastLine steps open' (line + 1) true (rest.drop 1)
    -- Blanks mean something at the start of a line that is in no brackets.
    else if fresh && depth == 0 && (c == ' ' || c == '\t') then
      ⟨.indent, 0⟩ :: lex lastLine steps open' line false cs
    else if c == ' ' || c == '\t' || c == '\x0c' then lex lastLine steps open' line fresh cs
    else if c == '#' then lex lastLine steps open' line fresh (cs.dropWhile (· ≠ '\n'))
    else if c == '\n' then
      if depth == 0 then ⟨.lineEnd, 0⟩ :: lex lastLine steps open' (line + 1) true cs
      else lex lastLine steps open' (line + 1) false cs
    else if c == '\\' then
      match cs with
      -- The text ends where the next line should go on.
      | ['\n'] =>
        match open' with
        | (opening, _) :: _ => fail (.neverClosed opening)
        | [] => fail .endOfText
      | '\n' :: rest => lex lastLine steps open' (line + 1) false rest
      | _ => fail .afterContinuation
    else if startsWord c then
      match quoteMarks? ⟨false, false, false⟩ false (c :: cs) with
      | some (marks, rest) =>
        match quoted line lastLine rest with
        | .ok (body, rest) =>
          ⟨.text marks body, depth⟩ ::
            lex lastLine steps open' (line + lineBreaks body) false rest
        | .error fault => fail fault
      | none =>
        let word := (c :: cs).takeWhile continuesWord
        match ofWord word with
        | .broken fault => fail fault
        | token => ⟨token, depth⟩ :: lex lastLine steps open' line false ((c :: cs).drop word.length)
    else if c.isDigit || c == '.' && cs.head?.any Char.isDigit then
      match number? (c :: cs) with
      | .ok (value, rest) => ⟨.number value, depth⟩ :: lex lastLine steps open' line false rest
      | .error fault => fail fault
    else if c == '\'' || c == '"' then
      match quoted line lastLine (c :: cs) with
      | .ok (body, rest) =>
        ⟨.text ⟨false, false, false⟩ body, depth⟩ ::
          lex lastLine steps open' (line + lineBreaks body) false rest
      | .error fault => fail fault
    else if c == '(' || c == '[' || c == '\x7b' then
      if 200 ≤ depth then fail .tooDeep
      else ⟨.symbol c.toString, depth⟩ :: lex lastLine steps ((c, line) :: open') line false cs
    else if c == ')' || c == ']' || c == '\x7d' then
      match open' with
      | [] => fail (.unmatched c)
      | (opening, start) :: others =>
        if closing opening = c then
          ⟨.symbol c.toString, depth⟩ :: lex lastLine steps others line false cs
        else fail (.mismatched c opening (if start = line then none else some start))
    else if !Text.isPrintable c then fail (.unprintableCharacter c)
    else
      let (s, rest) := sign c cs
      ⟨.symbol s, depth⟩ :: lex lastLine steps open' line false rest

/-- A text in which every line ends with a line feed alone. -/
def plainLines : List Char → List Char
  | [] => []
  | '\r' :: '\n' :: cs => '\n' :: plainLines cs
  | '\r' :: cs => '\n' :: plainLines cs
  | c :: cs => c :: plainLines cs

/-- The tokens of a text. -/
def ofText (cs : List Char) : List Lexeme :=
  let cs := plainLines cs
  lex (lineBreaks cs + 1) (2 * cs.length + 2) [] 1 true cs

end Token

end TypeSchema
