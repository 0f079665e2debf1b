import TypeSchema.Text.Table
/-!
# Command-line arguments

The arguments of the program: options of its own, then the name of a command with that
command's options and its target.

* An option may stand before or after the target, and takes its value from the text after
  `=` or from the next argument, whatever that looks like. A short option takes what is
  attached to it. A repeated option keeps its last value.
* The argument `--` ends the options.
* A command's `--help` counts before anything that is wrong with its values.
-/

namespace TypeSchema.Console

/-- The options of the `build` command. -/
structure BuildOptions where
  target : String
  strict : Bool
  output : Option String
  limit : Int
  responseFormat : Bool
  check : Bool
  deriving DecidableEq, Repr, Inhabited

/-- What the arguments ask for. -/
inductive Invocation where
  | help
  | version
  | build (options : BuildOptions)
  | inspect (target : String)
  | wrong
  deriving DecidableEq, Repr, Inhabited

namespace Arguments

/-- An option: its names, and whether it takes a value. -/
structure Spec where
  names : List String
  takesValue : Bool
  deriving Repr

/-- An option as it was given. -/
structure Given where
  name : String
  value : String
  deriving DecidableEq, Repr

/-- The options of the program itself. -/
def programSpecs : List Spec :=
  [⟨["--version", "-v"], false⟩, ⟨["--verbose"], false⟩, ⟨["--help"], false⟩]

/-- The options of the `build` command. -/
def buildSpecs : List Spec :=
  [⟨["--strict"], false⟩, ⟨["--output", "-o"], true⟩, ⟨["--max-depth"], true⟩,
   ⟨["--response-format"], false⟩, ⟨["--check"], false⟩, ⟨["--help"], false⟩]

/-- The options of the `inspect` command. -/
def inspectSpecs : List Spec := [⟨["--help"], false⟩]

/-- The option with a name: the first of its names, and whether it takes a value. -/
def find? (specs : List Spec) (name : String) : Option (String × Bool) :=
  specs.findSome? fun spec =>
    if spec.names.contains name then some (spec.names.headD name, spec.takesValue) else none

/-- An option that was given, and the arguments after it. -/
abbrev Step := Option (List Given × List String)

/-- A long option, with or without a value attached. -/
def long (specs : List Spec) (name : String) (attached : Option String)
    (rest : List String) : Step :=
  match find? specs name, attached, rest with
  | some (key, true), some value, rest => some ([⟨key, value⟩], rest)
  | some (key, true), none, value :: rest => some ([⟨key, value⟩], rest)
  | some (key, false), none, rest => some ([⟨key, ""⟩], rest)
  | _, _, _ => none

/-- The short options of one argument, without its dash. -/
def shorts (specs : List Spec) : List Char → List String → Step
  | [], rest => some ([], rest)
  | c :: cs, rest =>
    match find? specs (String.ofList ['-', c]) with
    | none => none
    | some (key, true) =>
      match cs, rest with
      | [], value :: rest => some ([⟨key, value⟩], rest)
      | [], [] => none
      | cs, rest => some ([⟨key, String.ofList cs⟩], rest)
    | some (key, false) =>
      (shorts specs cs rest).map fun (more, rest) => (⟨key, ""⟩ :: more, rest)

/-- An argument that starts with a dash, and what comes after it. -/
def option (specs : List Spec) (argument : String) (rest : List String) : Step :=
  let cs := argument.toList
  let name := cs.takeWhile (· ≠ '=')
  let attached := (cs.drop name.length).tail?.map String.ofList
  match cs with
  | '-' :: '-' :: _ => long specs (String.ofList name) attached rest
  | _ => shorts specs cs.tail rest

/-- Whether an argument is an option. -/
def isOption (argument : String) : Bool :=
  match argument.toList with
  | '-' :: _ :: _ => true
  | _ => false

/-- The options among some arguments and the other arguments, read in at most `steps` steps.
If options end at the first other argument, all from there on is left. -/
def scan (specs : List Spec) (interspersed : Bool) :
    (steps : Nat) → List String → Option (List Given × List String)
  | 0, rest => some ([], rest)
  | _, [] => some ([], [])
  | steps + 1, argument :: rest =>
    if argument = "--" then some ([], rest)
    else if isOption argument then do
      let (given, rest) ← option specs argument rest
      let (more, others) ← scan specs interspersed steps rest
      return (given ++ more, others)
    else if interspersed then do
      let (given, others) ← scan specs interspersed steps rest
      return (given, argument :: others)
    else some ([], argument :: rest)

/-- The last value that was given for an option. -/
def last? (given : List Given) (name : String) : Option String :=
  (given.filter (·.name = name)).getLast?.map Given.value

/-- Whether an option was given. -/
def has (given : List Given) (name : String) : Bool := (last? given name).isSome

/-- The number that the digits at the start of a text spell, and what follows them; single
underscores may stand between digits. -/
def digits? : List Char → Option (Nat × List Char)
  | [] => none
  | c :: cs => if c.isDigit then some (go (Text.Table.digit c) cs) else none
where
  /-- The number whose digits so far are `n`. -/
  go (n : Nat) : List Char → Nat × List Char
    | [] => (n, [])
    | '_' :: c :: cs =>
      if c.isDigit then go (10 * n + Text.Table.digit c) cs else (n, '_' :: c :: cs)
    | c :: cs => if c.isDigit then go (10 * n + Text.Table.digit c) cs else (n, c :: cs)

/-- A blank around a number. The separators of the control range are none. -/
def isBlankAround (c : Char) : Bool :=
  Text.isBlank c && !(0x1c ≤ c.toNat && c.toNat ≤ 0x1f)

/-- The whole number that a text spells: an optional sign, digits, and a fraction of nothing. -/
def integer? (s : String) : Option Int :=
  let cs := ((s.toList.dropWhile isBlankAround).reverse.dropWhile isBlankAround).reverse
  let (negative, cs) := match cs with
    | '-' :: cs => (true, cs)
    | '+' :: cs => (false, cs)
    | cs => (false, cs)
  match digits? cs with
  | some (n, rest) =>
    let value : Int := if negative then -n else n
    match rest with
    | [] => some value
    | '.' :: zeros => if zeros.all (· == '0') then some value else none
    | _ => none
  | none => none

/-- The depth limit that was asked for, which has to be positive. -/
def limit? (given : List Given) : Option Int :=
  match last? given "--max-depth" with
  | none => some 64
  | some text => (integer? text).filter (1 ≤ ·)

/-- The arguments of the `build` command. -/
def parseBuild (arguments : List String) : Invocation :=
  match scan buildSpecs true arguments.length arguments with
  | none => .wrong
  | some (given, others) =>
    if has given "--help" then .help
    else match others, limit? given with
      | [target], some limit =>
        .build
          { target, limit
            strict := has given "--strict"
            output := last? given "--output"
            responseFormat := has given "--response-format"
            check := has given "--check" }
      | _, _ => .wrong

/-- The arguments of the `inspect` command. -/
def parseInspect (arguments : List String) : Invocation :=
  match scan inspectSpecs true arguments.length arguments with
  | none => .wrong
  | some (given, others) =>
    if has given "--help" then .help
    else match others with
      | [target] => .inspect target
      | _ => .wrong

/-- What the arguments of the program ask for. -/
def parse (arguments : List String) : Invocation :=
  match scan programSpecs false arguments.length arguments with
  | none => .wrong
  | some (given, rest) =>
    if has given "--help" then .help
    else
      let version := has given "--version"
      match rest with
      | [] => if version then .version else .help
      | "build" :: rest => if version then .version else parseBuild rest
      | "inspect" :: rest => if version then .version else parseInspect rest
      | _ => .wrong

end Arguments

end TypeSchema.Console
