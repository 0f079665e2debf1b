import TypeSchema.Text.Pattern.Scan
import TypeSchema.Text.Table
/-!
# Escapes and classes of characters

What a backslash and the character after it stand for, in a pattern and between brackets.
-/

namespace TypeSchema.Text.Pattern

/-- What an escape stands for. -/
inductive Escape where
  | character (point : Nat)
  /-- One of several characters. -/
  | kind
  /-- A place between characters. -/
  | position
  /-- What a group matched, of its width. -/
  | group (width : Width)
  deriving DecidableEq, Repr

namespace Escape

/-- A digit of a number in base eight. -/
def isOctal (c : Char) : Bool := '0' ≤ c && c ≤ '7'

/-- A digit of a number in base sixteen. -/
def isHex (c : Char) : Bool :=
  c.isDigit || ('a' ≤ c && c ≤ 'f') || ('A' ≤ c && c ≤ 'F')

/-- The number that some digits spell in a base. -/
def number (base : Nat) (digits : List Char) : Nat :=
  digits.foldl (fun n d => base * n + Table.digit d) 0

/-- The character that a letter stands for. -/
def letter? : Char → Option Nat
  | 'a' => some 7
  | 'f' => some 12
  | 'n' => some 10
  | 'r' => some 13
  | 't' => some 9
  | 'v' => some 11
  | _ => none

/-- Letters that stand for a class of characters. -/
def isKind (c : Char) : Bool := "dDsSwW".toList.contains c

/-- Letters that stand for a place between characters. -/
def isPosition (c : Char) : Bool := "AbBZ".toList.contains c

/-- A character by as many digits in base sixteen. -/
def hex (digits : Nat) : Reader Escape := do
  let found ← Reader.takeWhile digits isHex
  let point := number 16 found
  if found.length = digits ∧ point < 0x110000 then return .character point else Reader.refuse

/-- A character by its name. -/
def named : Reader Escape := do
  Reader.expect '\x7b'
  match CharacterName.find? (← Reader.takeUntil '\x7d') with
  | some point => return .character point
  | none => Reader.refuse

/-- A character of one byte by its digits in base eight. -/
def octal (digits : List Char) : Reader Escape :=
  if number 8 digits ≤ 0o377 then return .character (number 8 digits) else Reader.refuse

/-- The escapes that mean the same everywhere, if a character starts one. -/
def shared (c : Char) : Reader (Option Escape) := do
  match c with
  | 'x' => return some (← hex 2)
  | 'u' => return some (← hex 4)
  | 'U' => return some (← hex 8)
  | 'N' => return some (← named)
  | c =>
    if isKind c then return some .kind
    else match letter? c with
      | some point => return some (.character point)
      | none =>
        if c.isAlpha then Reader.refuse
        else if c.isDigit then return none
        else return some (.character c.toNat)

/-- An escape between brackets. -/
def inClass (c : Char) : Reader Escape := do
  if c = 'b' then return .character 8
  match ← shared c with
  | some escape => return escape
  | none =>
    if isOctal c then octal (c :: (← Reader.takeWhile 2 isOctal)) else Reader.refuse

/-- A character in base eight, or what a group matched. -/
def numbered (first : Char) : Reader Escape := do
  match ← Reader.takeWhile 1 Char.isDigit with
  | [] => return .group (← Reader.mention (number 10 [first]))
  | second =>
    let digits := first :: second
    if digits.all isOctal then
      match ← Reader.takeWhile 1 isOctal with
      | [] => return .group (← Reader.mention (number 10 digits))
      | third => octal (digits ++ third)
    else return .group (← Reader.mention (number 10 digits))

/-- An escape outside brackets. -/
def read (c : Char) : Reader Escape := do
  if isPosition c then return .position
  match ← shared c with
  | some escape => return escape
  | none =>
    if c = '0' then octal (c :: (← Reader.takeWhile 2 isOctal)) else numbered c

end Escape

/-- An item of a class of characters. -/
def classItem : List Char → Reader Escape
  | ['\\', c] => Escape.inClass c
  | token => return .character ((token.headD ' ').toNat)

/-- Read a class of characters up to its closing bracket; a bracket that comes `first` is an item
like any other. -/
def readClass : (budget : Nat) → (first : Bool) → Reader Unit
  | 0, _ => Reader.refuse
  | budget + 1, first => do
    match ← Reader.next with
    | none => Reader.refuse
    | some token =>
      if token = [']'] && !first then return
      let low ← classItem token
      if ← Reader.accept '-' then
        match ← Reader.next with
        | none => Reader.refuse
        | some [']'] => return
        | some token =>
          match low, ← classItem token with
          | .character l, .character h =>
            if l ≤ h then readClass budget false else Reader.refuse
          | _, _ => Reader.refuse
      else readClass budget false

end TypeSchema.Text.Pattern
