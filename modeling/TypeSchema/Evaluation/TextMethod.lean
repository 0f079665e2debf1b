import TypeSchema.Evaluation.Construct
import TypeSchema.Evaluation.Template
import TypeSchema.Text.Identifier
import TypeSchema.Text.Lowercase
import TypeSchema.Text.Search
/-!
# Methods of texts

What the methods of a text make of their arguments. The number of arguments has been checked before.
-/

namespace TypeSchema.Catalog

variable (cat : Catalog)

/-- Whether a text has characters, all of which pass a test. -/
def allPass (test : Char → Bool) (cs : List Char) : Bool := !cs.isEmpty && cs.all test

/-- Whether a character is a letter. -/
def isLetter (c : Char) : Bool := Text.Identifier.isStart c && c ≠ '_'

/-- Whether a text has letters with another case, all of which are of one case. -/
def isOfCase (isWrong isRight : Char → Bool) (cs : List Char) : Bool :=
  !cs.any isWrong && cs.any isRight

/-- A text whose words start with a capital. -/
def capitalized (wordStart : Bool) : List Char → List Char
  | [] => []
  | c :: cs =>
    let shown := if wordStart then Text.Uppercase.ofChar c else [Text.Lowercase.ofChar c]
    shown ++ capitalized (!isLetter c) cs

/-- Whether every word of a text starts with a capital, and goes on without one. -/
def isTitle (cs : List Char) : Bool := cs.any isLetter && capitalized true cs == cs

/-- What methods of a text without arguments give. -/
def plainTextMethod? (name : String) (cs : List Char) : Option TypeExpr :=
  let text (cs : List Char) : TypeExpr := .ofText (String.ofList cs)
  let lower := cs.map Text.Lowercase.ofChar
  match name with
  | "upper" => some (text (cs.flatMap Text.Uppercase.ofChar))
  | "lower" | "casefold" => some (text lower)
  | "title" => some (text (capitalized true cs))
  | "capitalize" =>
    some (text (match cs with
      | [] => []
      | c :: rest => Text.Uppercase.ofChar c ++ rest.map Text.Lowercase.ofChar))
  | "swapcase" =>
    some (text (cs.flatMap fun c =>
      if Text.Lowercase.isUpper c then [Text.Lowercase.ofChar c] else Text.Uppercase.ofChar c))
  | "isdigit" | "isdecimal" | "isnumeric" =>
    some (.ofBool (allPass (fun c => (Text.Numeral.digit? c).isSome) cs))
  | "isalpha" => some (.ofBool (allPass isLetter cs))
  | "isalnum" =>
    some (.ofBool (allPass (fun c => isLetter c || (Text.Numeral.digit? c).isSome) cs))
  | "isupper" => some (.ofBool (isOfCase Text.Lowercase.isLower Text.Lowercase.isUpper cs))
  | "islower" => some (.ofBool (isOfCase Text.Lowercase.isUpper Text.Lowercase.isLower cs))
  | "isspace" => some (.ofBool (allPass Text.isBlank cs))
  | "isidentifier" => some (.ofBool (Text.Identifier.isValid cs))
  | "isprintable" => some (.ofBool (cs.all Text.isPrintable))
  | "isascii" => some (.ofBool (cs.all (·.toNat < 0x80)))
  | "istitle" => some (.ofBool (isTitle cs))
  | _ => none

/-- A text that an argument has to be. -/
def textArgument (demand : String) (t : TypeExpr) : Eval (List Char) :=
  match (cat.plain t).asText? with
  | some s => return s.toList
  | none => Eval.refuse (.argumentText (demand ++ cat.kindName t))

/-- A number that an argument may be. -/
def numberArgument (t : TypeExpr) (default : Int) : Eval Int :=
  match t with
  | .constant .none => return default
  | t => cat.wholeOf t

/-- The part of a sequence of some length between two places. -/
def between (bounds : List TypeExpr) (size : Nat) : Eval (Nat × Nat) := do
  let place (t : TypeExpr) (default : Int) : Eval Nat := do
    let n ← cat.numberArgument t default
    return (max 0 (min (if n < 0 then n + size else n) size)).toNat
  match bounds with
  | [] => return (0, size)
  | [first] => return (← place first 0, size)
  | first :: last :: _ => return (← place first 0, ← place last size)

/-- A text without the characters at its ends that pass a test. -/
def stripped (name : String) (test : Char → Bool) (cs : List Char) : List Char :=
  let left := if name = "rstrip" then cs else cs.dropWhile test
  if name = "lstrip" then left else (left.reverse.dropWhile test).reverse

/-- A text filled up to some width. -/
def filled (name : String) (width : Int) (fill : Char) (cs : List Char) : List Char :=
  let missing := (width - cs.length).toNat
  let left := match name with
    | "ljust" => 0
    | "rjust" => missing
    | _ => missing / 2 + (missing % 2) * (width.toNat % 2)
  List.replicate left fill ++ cs ++ List.replicate (missing - left) fill

/-- The pieces of a text, cut from its start or from its end. -/
def splitText (name : String) (cs : List Char) (args : Arguments) : Eval TypeExpr := do
  let argument (n : Nat) (key : String) : TypeExpr :=
    (args.positional[n]? <|> args.named.lookup key).getD (.constant .none)
  let count ← cat.numberArgument (argument 1 "maxsplit") (-1)
  let cuts := if count < 0 then cs.length + 1 else count.toNat
  let isBackward := name = "rsplit"
  let from' (cs : List Char) : List Char := if isBackward then cs.reverse else cs
  let result (pieces : List (List Char)) : TypeExpr :=
    let pieces := if isBackward then (pieces.map List.reverse).reverse else pieces
    .group .list (pieces.map fun p => .ofText (String.ofList p))
  match argument 0 "sep" with
  | .constant .none => return result (Text.Search.wordsUpTo cuts (cs.length + 1) (from' cs))
  | t => do
    let separator ← cat.textArgument "must be str or None, not " t
    if separator.isEmpty then throw (.unsuitable (.text "empty separator"))
    return result (Text.Search.pieces (from' separator) cuts (from' cs))

/-- Whether a text starts, or ends, with another one or with one of several. -/
def startsOrEnds (name : String) (cs : List Char) (part : TypeExpr) : Eval TypeExpr := do
  let test (p : List Char) : Bool :=
    if name = "startswith" then p.isPrefixOf cs else p.isSuffixOf cs
  match cat.plain part with
  | .constant (.string s) => return .ofBool (test s.toList)
  | .group .tuple items => do
    let parts ← items.mapM
      (cat.textArgument ("tuple for " ++ name ++ " must only contain str, not "))
    return .ofBool (parts.any test)
  | t =>
    Eval.refuse (.argumentText
      (name ++ " first arg must be str or a tuple of str, not " ++ cat.kindName t))

/-- Where a text stands in another one. -/
def locate (name : String) (cs : List Char) (part : TypeExpr) (bounds : List TypeExpr) :
    Eval TypeExpr := do
  let p ← cat.textArgument "must be str, not " part
  let (first, last) ← cat.between bounds cs.length
  let inside := (cs.take last).drop first
  if name = "count" then
    return .ofInt (if last < first then 0 else Text.Search.count p inside)
  let found :=
    if last < first then none
    else if name = "rfind" || name = "rindex" then Text.Search.findLast? p first inside
    else Text.Search.find? p first inside
  match found with
  | some n => return .ofInt n
  | none =>
    if name.endsWith "find" then return .ofInt (-1)
    else throw (.unsuitable (.text "substring not found"))

/-- The three parts of a text around another one. -/
def partition (name : String) (cs : List Char) (part : TypeExpr) : Eval TypeExpr := do
  let p ← cat.textArgument "must be str, not " part
  if p.isEmpty then throw (.unsuitable (.text "empty separator"))
  let text (cs : List Char) : TypeExpr := .ofText (String.ofList cs)
  let found := if name = "rpartition" then Text.Search.findLast? p 0 cs else Text.Search.find? p 0 cs
  match found with
  | some n => return .group .tuple [text (cs.take n), text p, text (cs.drop (n + p.length))]
  | none =>
    if name = "rpartition" then return .group .tuple [text [], text [], text cs]
    else return .group .tuple [text cs, text [], text []]

/-- A text joined from the items of a value. -/
def joinItems (separator : String) (t : TypeExpr) : Eval TypeExpr := do
  match ← cat.takeItems? t with
  | none => Eval.refuse (.argumentText "can only join an iterable")
  | some items => do
    let texts ← (items.zipIdx).mapM fun (item, i) =>
      match (cat.plain item).asText? with
      | some s => pure s
      | none => Eval.refuse (.joinedItem i (cat.kindName item))
    return .ofText (joinWith separator texts)

/-- What a method of a text makes of its arguments. -/
def applyTextMethod (s name : String) (args : Arguments) : Eval TypeExpr := do
  let cs := s.toList
  let text (cs : List Char) : TypeExpr := .ofText (String.ofList cs)
  match plainTextMethod? name cs, name, args.positional with
  | some t, _, _ => return t
  | _, "format", _ => return .ofText (← cat.filledTemplate s args)
  | _, "format_map", [.group .dict entries] => do
    let named := entries.filterMap fun
      | .group .tuple [.constant (.string n), v] => some (n, v)
      | _ => none
    return .ofText (← cat.filledTemplate s ⟨[], named⟩)
  | _, "split", _ | _, "rsplit", _ => cat.splitText name cs args
  | _, "join", [t] => cat.joinItems s t
  | _, "splitlines", _ => return .group .list ((Text.lines cs).map text)
  | _, "encode", _ => return .constant (.bytes s.toUTF8.toList)
  | _, "strip", [] | _, "lstrip", [] | _, "rstrip", []
  | _, "strip", [.constant .none] | _, "lstrip", [.constant .none]
  | _, "rstrip", [.constant .none] => return text (stripped name Text.isBlank cs)
  | _, "strip", [t] | _, "lstrip", [t] | _, "rstrip", [t] => do
    let signs ← cat.textArgument (name ++ " arg must be None or str, not ") t
    return text (stripped name signs.contains cs)
  | _, "removeprefix", [t] => do
    let p ← cat.textArgument "removeprefix() argument must be str, not " t
    return text (if p.isPrefixOf cs then cs.drop p.length else cs)
  | _, "removesuffix", [t] => do
    let p ← cat.textArgument "removesuffix() argument must be str, not " t
    return text (if !p.isEmpty && p.isSuffixOf cs then cs.take (cs.length - p.length) else cs)
  | _, "partition", [t] | _, "rpartition", [t] => cat.partition name cs t
  | _, "zfill", [t] => do
    let width ← cat.wholeOf t
    let (sign, digits) := match cs with
      | '+' :: rest => (['+'], rest)
      | '-' :: rest => (['-'], rest)
      | rest => ([], rest)
    return text (sign ++ List.replicate (width - cs.length).toNat '0' ++ digits)
  | _, "ljust", width :: fill | _, "rjust", width :: fill | _, "center", width :: fill => do
    let width ← cat.wholeOf width
    let sign ← match fill with
      | [] => pure ' '
      | t :: _ => do
        match ← cat.textArgument "The fill character must be a unicode character, not " t with
        | [c] => pure c
        | _ => Eval.refuse (.argumentText "The fill character must be exactly one character long")
    return text (filled name width sign cs)
  | _, "startswith", part :: bounds | _, "endswith", part :: bounds => do
    let (first, last) ← cat.between bounds cs.length
    cat.startsOrEnds name ((cs.take last).drop first) part
  | _, "find", part :: bounds | _, "rfind", part :: bounds | _, "index", part :: bounds
  | _, "rindex", part :: bounds | _, "count", part :: bounds => cat.locate name cs part bounds
  | _, "replace", old :: new :: count => do
    let old ← cat.textArgument "replace() argument 1 must be str, not " old
    let new ← cat.textArgument "replace() argument 2 must be str, not " new
    let count ← cat.numberArgument (count.headD (.constant .none)) (-1)
    return text (Text.Search.replace old new (if count < 0 then cs.length + 1 else count.toNat) cs)
  | _, _, _ => return text cs

end TypeSchema.Catalog
