import TypeSchema.Evaluation.Arguments
import TypeSchema.Expression.Binding
/-!
# Functions without a name

How a function without a name takes its arguments. Those by position come first; what is left over
goes to a parameter that takes all others, and names go to the parameters that have them.
-/

namespace TypeSchema.Closure

/-- How the messages call a function without a name. -/
def title : String := "<lambda>()"

/-- Whether a parameter takes an argument by position. -/
def isByPosition (p : ClosureParameter) : Bool := p.kind = .positional || p.kind = .ordinary

/-- Whether a parameter takes an argument by name. -/
def isByName (p : ClosureParameter) : Bool := p.kind = .ordinary || p.kind = .named

/-- Refuse an argument by a name that no parameter takes. -/
def refuseName (f : Closure) (args : Arguments) (name : String) : Eval Unit :=
  let fixed := f.parameters.filter fun p =>
    p.kind = .positional && args.named.any fun (n, _) => n = p.name
  if fixed.isEmpty then Eval.refuse (.unexpectedArgument title name)
  else
    Eval.refuse (.argumentText (title ++
      " got some positional-only arguments passed as keyword arguments: '" ++
      joinWith ", " (fixed.map (·.name)) ++ "'"))

/-- How many arguments a function takes by position. -/
def expectedCount (byPosition : List ClosureParameter) : String :=
  let required := (byPosition.filter (·.default.isNone)).length
  if required < byPosition.length then
    "from " ++ toString required ++ " to " ++ counted byPosition.length "positional argument"
  else counted byPosition.length "positional argument"

/-- The values of the parameters of a function. -/
def bind (f : Closure) (args : Arguments) : Eval (List (String × TypeExpr)) := do
  let byPosition := f.parameters.filter isByPosition
  let given := (byPosition.zip args.positional).map fun (p, t) => (p.name, t)
  let isKnown (name : String) : Bool := f.parameters.any fun p => isByName p && p.name = name
  let takesNames := f.parameters.any (·.kind = .otherNames)
  for (name, _) in args.named do
    if !isKnown name && !takesNames then refuseName f args name
    if isKnown name && given.any (·.1 = name) then Eval.refuse (.repeatedArgument title name)
  let takesAll := f.parameters.any (·.kind = .others)
  if byPosition.length < args.positional.length && !takesAll then
    let keywordOnly := (f.parameters.filter fun p =>
      p.kind = .named && args.named.any fun (n, _) => n = p.name).length
    Eval.refuse (.positionalCount title (expectedCount byPosition) args.positional.length
      keywordOnly)
  let known := given ++ args.named.filter fun (name, _) => isKnown name
  let missing (role : String) (ps : List ClosureParameter) : Eval Unit :=
    let names := (ps.filter fun p => p.default.isNone && !known.any (·.1 = p.name)).map (·.name)
    if names.isEmpty then pure () else Eval.refuse (.missingArguments title role names)
  missing "positional" byPosition
  missing "keyword-only" (f.parameters.filter (·.kind = .named))
  return f.parameters.map fun p =>
    match p.kind with
    | .others => (p.name, .group .tuple (args.positional.drop byPosition.length))
    | .otherNames =>
      let others := args.named.filter fun (name, _) => !isKnown name
      (p.name, .group .dict (others.map fun (n, t) =>
        .group .tuple [.constant (.string n), t]))
    | _ => (p.name, (known.lookup p.name <|> p.default).getD (.constant .none))

end TypeSchema.Closure
