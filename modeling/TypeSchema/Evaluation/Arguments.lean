import TypeSchema.Evaluation.Check
/-!
# Arguments of calls

A function takes its arguments by position or by name. `Parameter.bind` gives every parameter its
value, or says which arguments are missing or too many.
-/

namespace TypeSchema

/-- The arguments of a call. -/
structure Arguments where
  positional : List TypeExpr
  named : List (String × TypeExpr)
  deriving Inhabited, Repr

/-- What `function(…)` means, for the functions that call others. -/
abbrev Caller := TypeExpr → Arguments → Eval TypeExpr

/-- A parameter of a function. -/
structure Parameter where
  name : String
  /-- What stands in where no argument is given. -/
  default : Option TypeExpr
  deriving Inhabited, Repr

namespace Parameter

/-- The values of parameters that follow an instance. Unless `byPosition`, they are given by name
only. -/
def bind (function : String) (byPosition : Bool) (params : List Parameter) (args : Arguments) :
    Eval (List TypeExpr) := do
  let reachable := if byPosition then params else []
  let given := (reachable.zip args.positional).map fun (p, v) => (p.name, v)
  for (name, _) in args.named do
    if !params.any (·.name = name) then Eval.refuse (.unexpectedArgument function name)
    if given.any (·.1 = name) then Eval.refuse (.repeatedArgument function name)
  if reachable.length < args.positional.length then
    let required := (reachable.filter (·.default.isNone)).length + 1
    let most := reachable.length + 1
    let expected :=
      if required < most then
        "from " ++ toString required ++ " to " ++ counted most "positional argument"
      else counted most "positional argument"
    let byName := if byPosition then 0 else args.named.length
    Eval.refuse (.positionalCount function expected (args.positional.length + 1) byName)
  let known := given ++ args.named
  let missing := params.filter fun p => p.default.isNone && !known.any (·.1 = p.name)
  if !missing.isEmpty then
    let role := if byPosition then "positional" else "keyword-only"
    Eval.refuse (.missingArguments function role (missing.map Parameter.name))
  return params.map fun p =>
    (known.lookup p.name <|> p.default).getD (.constant .none)

end Parameter

end TypeSchema
