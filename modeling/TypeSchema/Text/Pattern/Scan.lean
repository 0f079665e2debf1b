import TypeSchema.Text.CharacterName
import TypeSchema.Text.Identifier
import TypeSchema.Text.Numeral
/-!
# Reading patterns token by token

A pattern is a list of *tokens*: a character, or a backslash with the character after it. A
`Reader` takes tokens from the start of the list and keeps account of the groups, whose *widths*
are known once they are closed.
-/

namespace TypeSchema.Text.Pattern

/-- Why a text is no pattern. -/
inductive Fault where
  | malformed
  /-- A repetition that is counted further than patterns count. -/
  | repetitionTooLarge
  /-- Options that exclude each other. -/
  | incompatibleOptions
  /-- A count that is written with more digits than are read. -/
  | tooManyDigits (count : Nat)
  deriving DecidableEq, Repr

/-- The text of a fault; a malformed pattern has none of its own. -/
def Fault.message : Fault → String
  | malformed => ""
  | repetitionTooLarge => "the repetition number is too large"
  | incompatibleOptions => "ASCII and UNICODE flags are incompatible"
  | tooManyDigits count =>
    "Exceeds the limit (4300 digits) for integer string conversion: value has " ++
      toString count ++ " digits; use sys.set_int_max_str_digits() to increase the limit"

/-- The least and the greatest number of characters that a part of a pattern matches. -/
structure Width where
  low : Nat
  high : Nat
  deriving DecidableEq, Repr

namespace Width

/-- Widths from here on are not told apart. -/
def limit : Nat := 0x10000000000000000

/-- The number of repetitions that stands for no bound. -/
def unbounded : Nat := 0xffffffff

/-- The width of nothing. -/
def zero : Width := ⟨0, 0⟩

/-- The width of one character. -/
def one : Width := ⟨1, 1⟩

/-- A width up to the limit. -/
def capped (w : Width) : Width := ⟨min w.low limit, min w.high limit⟩

/-- The width of one part after another. -/
def append (v w : Width) : Width := ⟨v.low + w.low, v.high + w.high⟩

/-- The width of one part or another. -/
def either (v w : Width) : Width := ⟨min v.low w.low, max v.high w.high⟩

/-- The width of a repeated part. -/
def repeated (w : Width) (low high : Nat) : Width :=
  ⟨w.low * low, if high = unbounded ∧ w.high ≠ 0 then limit else w.high * high⟩

end Width

/-- The options that are set for a whole pattern, as far as they matter. -/
structure Options where
  ascii : Bool
  unicode : Bool
  spaced : Bool
  /-- Without repetitions. -/
  template : Bool
  deriving DecidableEq, Repr

/-- What is known while a pattern is read. -/
structure Scan where
  /-- The tokens that are left. -/
  rest : List (List Char)
  /-- The widths of the groups in their order; one that is open has none yet. -/
  groups : List (Option Width)
  /-- The groups that have names. -/
  names : List (String × Nat)
  /-- The number of groups when the outermost look behind was opened, inside of one. -/
  behind : Option Nat
  /-- The groups that have to exist in the end. -/
  promised : List Nat
  options : Options
  /-- Whether something is repeated. -/
  repeats : Bool
  /-- Whether some look behind has no fixed width. -/
  uneven : Bool

/-- Reads a part of a pattern. -/
abbrev Reader := StateT Scan (Except Fault)

/-- The tokens of a text. A backslash at its end is alone. -/
def tokens : List Char → List (List Char)
  | [] => []
  | '\\' :: c :: cs => ['\\', c] :: tokens cs
  | c :: cs => [c] :: tokens cs

namespace Reader

/-- Find fault. -/
def refuse {α : Type} : Reader α := throw .malformed

/-- The next token, if there is one. -/
def peek : Reader (Option (List Char)) := return (← get).rest.head?

/-- Pass over some tokens. No lone backslash may stand among them or come next. -/
def skip (count : Nat) : Reader Unit := do
  let s ← get
  if (s.rest.take (count + 1)).contains ['\\'] then refuse
  set { s with rest := s.rest.drop count }

/-- Take the next token. -/
def next : Reader (Option (List Char)) := do
  let token ← peek
  skip 1
  return token

/-- Pass over a character, if it comes next. -/
def accept (c : Char) : Reader Bool := do
  if (← peek) = some [c] then
    skip 1
    return true
  else return false

/-- Pass over a character, which has to come next. -/
def expect (c : Char) : Reader Unit := do
  unless ← accept c do refuse

/-- Take at most `count` characters of a kind. -/
def takeWhile (count : Nat) (kind : Char → Bool) : Reader (List Char) := do
  let found := ((← get).rest.take count).map fun token =>
    match token with
    | [c] => if kind c then some c else none
    | _ => none
  let taken := (found.takeWhile Option.isSome).filterMap id
  skip taken.length
  return taken

/-- Take what stands before a character, which is passed over too. -/
def takeUntil (stop : Char) : Reader (List Char) := do
  let rest := (← get).rest
  let taken := rest.takeWhile (· ≠ [stop])
  if taken.isEmpty || taken.length = rest.length then refuse
  skip (taken.length + 1)
  return taken.flatten

/-- The width of a group, if it is closed. -/
def closed? (group : Nat) : Reader (Option Width) := do
  let s ← get
  return if group = 0 then none else (s.groups[group - 1]?).join

/-- Refuse a group that is not closed before the look behind around this place. -/
def checkBehind (group : Nat) : Reader Unit := do
  match (← get).behind with
  | none => return
  | some count =>
    if (← closed? group).isNone || count < group then refuse

/-- The width of a mentioned group, which has to be closed. -/
def mention (group : Nat) : Reader Width := do
  match ← closed? group with
  | none => refuse
  | some width =>
    checkBehind group
    return width

/-- Open a group, and give its number. -/
def openGroup (name : Option String) : Reader Nat := do
  let s ← get
  let group := s.groups.length + 1
  let names ← match name with
    | none => pure s.names
    | some name =>
      if (s.names.lookup name).isSome then refuse else pure ((name, group) :: s.names)
  set { s with names, groups := s.groups ++ [none] }
  return group

/-- Close a group of a width. -/
def closeGroup (group : Nat) (width : Width) : Reader Unit :=
  modify fun s => { s with groups := s.groups.set (group - 1) (some width.capped) }

/-- The name of a group, up to a character. -/
def groupName (stop : Char) : Reader String := do
  let name ← takeUntil stop
  if Identifier.isValid name then return String.ofList name else refuse

end Reader

end TypeSchema.Text.Pattern
