import TypeSchema.Text.Hex
import TypeSchema.Text.Printable
/-!
# Faults of written expressions

Why a text is no expression, and the text that says so. A `Fault` is found either in the
characters, such as a quote that is never closed, or in the order of the tokens.
-/

namespace TypeSchema

/-- What is wrong with an escape inside quotes. -/
inductive EscapeFault where
  | shortByte
  | shortUnit
  | shortPoint
  /-- A number above that of the last character. -/
  | noCharacter
  | malformedName
  | unknownName
  deriving DecidableEq, Repr

/-- Why a text is no expression. -/
inductive Fault where
  /-- The tokens stand in an order that means nothing. -/
  | invalid
  | forgottenComma
  | forgottenComparison
  /-- An equals sign after something that is no name. -/
  | assignmentTo (what : String)
  /-- The sign that binds a name after something else. -/
  | bindingOf (what : String)
  /-- An equals sign after an argument that is no name. -/
  | assignmentInCall
  | constantAsName (what : String)
  | starredEntry
  | starredComprehension
  | missingAlternative
  | missingColon
  | missingEntry
  | starredGroup
  | doubleStarredGroup
  | positionalAfterKeyword
  | positionalAfterUnpacking
  | starredAfterUnpacking
  | repeatedKeyword (name : String)
  | emptyStar
  /-- A call without parentheses. -/
  | missingParentheses (function : String)
  | indented
  | neverClosed (opening : Char)
  | unmatched (closing : Char)
  /-- A closing bracket of the wrong kind, and the line of the opening one, if it is another. -/
  | mismatched (closing opening : Char) (line : Option Nat)
  | tooDeep
  | unterminatedText (line : Nat)
  | unterminatedBlock (line : Nat)
  | invalidNumber (kind : String)
  | invalidDigit (digit : Char) (kind : String)
  | leadingZeros
  | invalidCharacter (c : Char)
  | unprintableCharacter (c : Char)
  | afterContinuation
  | endOfText
  /-- Bytes beside a text. -/
  | mixedBytes
  /-- A character outside ASCII among bytes. -/
  | wideByte
  | invalidEscape (first last : Nat) (cause : EscapeFault)
  | invalidByteEscape (position : Nat)
  /-- A formatted text whose braces do not match. -/
  | unmatchedBrace (closing : Bool)
  | emptyField
  | backslashInField
  | commentInField
  | unterminatedInField
  | unmatchedInField (bracket : Char)
  | unknownConversion
  | nestedFields
  deriving DecidableEq, Repr

/-- What is wrong with an escape, as text. -/
def EscapeFault.message : EscapeFault → String
  | shortByte => "truncated \\xXX escape"
  | shortUnit => "truncated \\uXXXX escape"
  | shortPoint => "truncated \\UXXXXXXXX escape"
  | noCharacter => "illegal Unicode character"
  | malformedName => "malformed \\N character escape"
  | unknownName => "unknown Unicode character name"

namespace Fault

/-- The number of a character, as it stands in texts. -/
def number (c : Char) : String :=
  let width := if c.toNat < 0x10000 then 4 else if c.toNat < 0x100000 then 5 else 6
  "U+" ++ String.ofList ((Text.hexDigits width c.toNat).map Char.toUpper)

/-- A character between quotes. -/
def quote (c : Char) : String := String.ofList ['\'', c, '\'']

/-- The text of a fault. -/
def message : Fault → String
  | invalid => "invalid syntax"
  | forgottenComma => "invalid syntax. Perhaps you forgot a comma?"
  | forgottenComparison => "invalid syntax. Maybe you meant '==' or ':=' instead of '='?"
  | assignmentTo what =>
    "cannot assign to " ++ what ++ " here. Maybe you meant '==' instead of '='?"
  | bindingOf what => "cannot use assignment expressions with " ++ what
  | assignmentInCall =>
    "expression cannot contain assignment, perhaps you meant \"==\"?"
  | constantAsName what => "cannot assign to " ++ what
  | starredEntry => "cannot use a starred expression in a dictionary value"
  | starredComprehension => "iterable unpacking cannot be used in comprehension"
  | missingAlternative => "expected 'else' after 'if' expression"
  | missingColon => "':' expected after dictionary key"
  | missingEntry => "expression expected after dictionary key and ':'"
  | starredGroup => "cannot use starred expression here"
  | doubleStarredGroup => "cannot use double starred expression here"
  | positionalAfterKeyword => "positional argument follows keyword argument"
  | positionalAfterUnpacking => "positional argument follows keyword argument unpacking"
  | starredAfterUnpacking => "iterable argument unpacking follows keyword argument unpacking"
  | repeatedKeyword name => "keyword argument repeated: " ++ name
  | emptyStar => "Invalid star expression"
  | missingParentheses f =>
    "Missing parentheses in call to '" ++ f ++ "'. Did you mean " ++ f ++ "(...)?"
  | indented => "unexpected indent"
  | neverClosed c => quote c ++ " was never closed"
  | unmatched c => "unmatched " ++ quote c
  | mismatched closing opening line =>
    "closing parenthesis " ++ quote closing ++ " does not match opening parenthesis " ++
      quote opening ++ ((line.map fun n => " on line " ++ toString n).getD "")
  | tooDeep => "too many nested parentheses"
  | unterminatedText line =>
    "unterminated string literal (detected at line " ++ toString line ++ ")"
  | unterminatedBlock line =>
    "unterminated triple-quoted string literal (detected at line " ++ toString line ++ ")"
  | invalidNumber kind => "invalid " ++ kind ++ " literal"
  | invalidDigit digit kind => "invalid digit " ++ quote digit ++ " in " ++ kind ++ " literal"
  | leadingZeros =>
    "leading zeros in decimal integer literals are not permitted; use an 0o prefix for " ++
      "octal integers"
  | invalidCharacter c => "invalid character " ++ quote c ++ " (" ++ number c ++ ")"
  | unprintableCharacter c => "invalid non-printable character " ++ number c
  | afterContinuation => "unexpected character after line continuation character"
  | endOfText => "unexpected EOF while parsing"
  | mixedBytes => "cannot mix bytes and nonbytes literals"
  | wideByte => "bytes can only contain ASCII literal characters"
  | invalidEscape first last cause =>
    "(unicode error) 'unicodeescape' codec can't decode bytes in position " ++
      toString first ++ "-" ++ toString last ++ ": " ++ cause.message
  | invalidByteEscape position =>
    "(value error) invalid \\x escape at position " ++ toString position
  | unmatchedBrace true => "f-string: single '\x7d' is not allowed"
  | unmatchedBrace false => "f-string: expecting '\x7d'"
  | emptyField => "f-string: empty expression not allowed"
  | backslashInField => "f-string expression part cannot include a backslash"
  | commentInField => "f-string expression part cannot include '#'"
  | unterminatedInField => "f-string: unterminated string"
  | unmatchedInField c => "f-string: unmatched " ++ quote c
  | unknownConversion => "f-string: invalid conversion character: expected 's', 'r', or 'a'"
  | nestedFields => "f-string: expressions nested too deeply"

/-- The fault of a character that cannot stand in a name. -/
def ofCharacter (c : Char) : Fault :=
  if Text.isPrintable c then invalidCharacter c else unprintableCharacter c

/-- Whether a fault is found in the characters, wherever they stand, so that it counts before any
fault in the order of the tokens. -/
def isLexical : Fault → Bool
  | unmatched _ | mismatched _ _ _ | tooDeep | unterminatedText _ | unterminatedBlock _
  | invalidNumber _ | invalidDigit _ _ | leadingZeros | invalidCharacter _
  | unprintableCharacter _ => true
  | _ => false

/-- Whether a fault is found in the characters of a text. -/
def isOfCharacters : Fault → Bool
  | neverClosed _ | afterContinuation | endOfText => true
  | fault => fault.isLexical

end Fault

end TypeSchema
