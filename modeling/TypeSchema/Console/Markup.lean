import TypeSchema.Console.Style
import TypeSchema.Expression.Literal
import TypeSchema.Expression.Parser
import TypeSchema.Text.Emoji
/-!
# Markup

Printed messages may hold tags in square brackets, which style the text between them and are
not printed themselves. A bracket opens a tag if a lower-case letter, `#`, `/` or `@` follows
and a closing bracket comes before the next opening one. An odd number of backslashes before
a tag makes it text; two backslashes before a tag print one.

* A tag that starts with a slash closes the last open tag of the same style, or the last of all
  if it names none. Closing what is not open is an error.
* A tag that starts with `@` names a handler and its arguments, which are read when the tag is
  closed; they have to be literals.
* The text between tags may hold emoji by name.
-/

namespace TypeSchema.Console.Markup

/-- A piece of a message. -/
inductive Piece where
  | text (cs : List Char)
  /-- A tag: its place in the message, its name, and what stands after its first `=`. -/
  | tag (position : Nat) (name : List Char) (parameters : Option (List Char))
  deriving DecidableEq, Repr

/-- A tag that is open: the normal form of its name and its parameters. -/
structure OpenTag where
  name : String
  parameters : Option (List Char)
  deriving DecidableEq, Repr

/-- Why a message cannot be printed. -/
inductive Error where
  /-- A tag that closes nothing, as it is written. -/
  | unmatched (tag : String) (position : Nat)
  | nothingToClose (position : Nat)
  /-- The arguments of a handler are no expression. -/
  | unreadable (arguments written : String) (fault : Fault)
  /-- The arguments of a handler are no literals. -/
  | noLiteral (written : String) (fault : Expression.LiteralFault)
  /-- A colour with an empty component. -/
  | emptyComponent
  deriving DecidableEq, Repr

/-- The text of an error. -/
def Error.message : Error → String
  | unmatched tag position =>
    "closing tag '" ++ tag ++ "' at position " ++ toString position ++
      " doesn't match any open tag"
  | nothingToClose position =>
    "closing tag '[/]' at position " ++ toString position ++ " has nothing to close"
  | unreadable arguments written fault =>
    "error parsing " ++ Text.quoted arguments ++ " in " ++ Text.quoted written ++ "; " ++
      fault.message
  | noLiteral written fault =>
    "error parsing " ++ Text.quoted written ++ "; " ++ fault.message
  | emptyComponent => "invalid literal for int() with base 10: ''"

/-! ## The pieces of a message -/

/-- Whether a character may start a tag. -/
def startsTag (c : Char) : Bool :=
  ('a' ≤ c && c ≤ 'z') || c == '#' || c == '/' || c == '@'

/-- The contents of the tag that an opening bracket starts, and what follows it. -/
def tag? : List Char → Option (List Char × List Char)
  | c :: cs =>
    if startsTag c then
      let body := cs.takeWhile fun d => d ≠ '[' && d ≠ ']'
      match cs.drop body.length with
      | ']' :: rest => some (c :: body, rest)
      | _ => none
    else none
  | [] => none

/-- A tag by its place and contents. -/
def ofContents (position : Nat) (contents : List Char) : Piece :=
  let name := contents.takeWhile (· ≠ '=')
  .tag position name (if name.length < contents.length then some (contents.drop (name.length + 1))
    else none)

/-- The pieces of a message from a place on, read in at most `steps` steps; `before` is the text
since the last tag, in reverse. -/
def piecesIn : (steps position : Nat) → (before : List Char) → List Char → List Piece
  | 0, _, before, cs => [.text (before.reverse ++ cs)]
  | _, _, before, [] => [.text before.reverse]
  | steps + 1, position, before, c :: cs =>
    let slashes := (c :: cs).takeWhile (· = '\\')
    match (c :: cs).drop slashes.length with
    | '[' :: after =>
      match tag? after with
      | some (contents, rest) =>
        -- Two backslashes stand for one; one that is left over makes the tag text.
        let halved := slashes.length / 2
        let next := position + slashes.length + contents.length + 2
        let found := if slashes.length % 2 = 1 then .text ('[' :: contents ++ [']'])
          else ofContents (position + 2 * halved) contents
        .text before.reverse :: .text (List.replicate halved '\\') :: found ::
          piecesIn steps next [] rest
      | none =>
        piecesIn steps (position + slashes.length + 1) ('[' :: slashes ++ before) after
    | rest =>
      if slashes.isEmpty then piecesIn steps (position + 1) (c :: before) cs
      else piecesIn steps (position + slashes.length) (slashes ++ before) rest

/-- A text in which a backslash before a bracket is left out. -/
def unescape : List Char → List Char
  | '\\' :: '[' :: cs => '[' :: unescape cs
  | c :: cs => c :: unescape cs
  | [] => []

/-! ## Printing -/

/-- The arguments that the parameters of a handler spell: what stands in parentheses after its
name, or all of it. -/
def handlerArguments (parameters : List Char) : List Char :=
  let name := parameters.takeWhile (· ≠ '(')
  let rest := parameters.drop name.length
  let isName := name.all fun c => c == '.' || Text.Identifier.isPart c
  if isName && rest.isEmpty then ['(', ')']
  else if isName && 2 ≤ rest.length && rest.getLast? == some ')' && !rest.contains '\n' then rest
  else parameters

/-- Check the arguments of a handler whose tag is closed. -/
def checkHandler (written : List Char) : Except Error Unit :=
  let arguments := handlerArguments (Text.trim written)
  let source := arguments.dropWhile fun c => c == ' ' || c == '\t'
  match Expression.parse source with
  | .error fault =>
    .error (.unreadable (String.ofList arguments) (String.ofList written) fault)
  | .ok e =>
    match e.literalFault? with
    | some fault => .error (.noLiteral (String.ofList written) fault)
    | none => .ok ()

/-- Check a tag that is closed. -/
def checkClosed (tag : OpenTag) : Except Error Unit :=
  match tag.parameters with
  | some (c :: cs) => if tag.name.startsWith "@" then checkHandler (c :: cs) else .ok ()
  | _ => .ok ()

/-- The last open tag of a name, and the other open tags. -/
def close? (name : String) : List OpenTag → Option (OpenTag × List OpenTag)
  | [] => none
  | t :: ts =>
    if t.name = name then some (t, ts)
    else (close? name ts).map fun (found, others) => (found, t :: others)

/-- The normal form of the name of a tag. -/
def normalName (name : List Char) : Except Error String :=
  (Style.normalize name).mapError fun _ => .emptyComponent

/-- What is printed of some pieces while some tags are open, the newest first. -/
def print : List OpenTag → List Piece → Except Error (List Char)
  | _, [] => .ok []
  | open', .text cs :: ps => return Text.Emoji.replace (unescape cs) ++ (← print open' ps)
  | open', .tag position ('/' :: name) parameters :: ps => do
    let name' := Text.trim name
    let (closed, others) ←
      if name'.isEmpty then
        match open' with
        | t :: ts => .ok (t, ts)
        | [] => .error (.nothingToClose position)
      else do
        match close? (← normalName name') open' with
        | some found => .ok found
        | none =>
          let written := '/' :: name ++ match parameters with
            | some ps => '=' :: ps
            | none => []
          .error (.unmatched (String.ofList ('[' :: written ++ [']'])) position)
    -- Only now the arguments of a handler are read.
    checkClosed closed
    print others ps
  | open', .tag _ name parameters :: ps => do
    print (⟨← normalName name, parameters⟩ :: open') ps

/-- Characters that move the cursor and are not printed. -/
def isControl (c : Char) : Bool :=
  c.toNat == 7 || c.toNat == 8 || c.toNat == 11 || c.toNat == 12 || c.toNat == 13

/-- What is printed of a message. -/
def render (cs : List Char) : Except Error (List Char) := do
  let printed ←
    if cs.contains '[' then print [] (piecesIn cs.length 0 [] cs)
    else .ok (Text.Emoji.replace cs)
  return printed.filter fun c => !isControl c

end TypeSchema.Console.Markup
