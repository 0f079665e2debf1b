import TypeSchema.Evaluation.Call
import TypeSchema.Evaluation.Closure
import TypeSchema.Evaluation.Reference
import TypeSchema.Evaluation.Scope
/-!
# Evaluation of written expressions

`Catalog.eval` says what a written expression means in a scope. Operands and items are evaluated from
left to right, and the first that has no value is the failure of the whole. What a star stands
before is unpacked where it stands.

The value of an expression is found by recursion on the expression. What calls do inside it is left to a
`Caller`: a function without a name has a body of its own. `Catalog.call` is the caller that is used in the
end; calls inside each other are `callDepth` deep at most.
-/

namespace TypeSchema.Catalog

variable (cat : Catalog)

/-- The items that a star unpacks. -/
def unpack (t : TypeExpr) : Eval (List TypeExpr) := do
  match ← cat.takeItems? t with
  | some items => return items
  | none => Eval.refuse (.starOperand (cat.kindName t))

/-- The name of a function, as messages about its arguments mention it. -/
def functionText (function : TypeExpr) : String :=
  match function with
  | .cls id args =>
    match cat.moduleOf ⟨id, args⟩ with
    | some "builtins" | none => cat.qualnameOf ⟨id, args⟩ ++ "()"
    | some m => m ++ "." ++ cat.qualnameOf ⟨id, args⟩ ++ "()"
  | .function name => name ++ "()"
  | t => cat.display t

/-- The entries that two stars unpack. -/
def unpackEntries (t : TypeExpr) : Eval (List TypeExpr) :=
  match entries? t with
  | some entries => return entries
  | none => Eval.refuse (.notMapping (cat.kindName t))

/-! ## Names -/

/-- The items that a number of targets share, of which one may have a star. -/
def shared (count : Nat) (star : Option Nat) (t : TypeExpr) : Eval (List TypeExpr) := do
  match ← cat.takeItems? t with
  | none => Eval.refuse (.argumentText ("cannot unpack non-iterable " ++ cat.kindName t ++ " object"))
  | some items =>
    let size := items.length
    match star with
    | none =>
      if size < count then
        throw (.unsuitable (.text ("not enough values to unpack (expected " ++ toString count ++
          ", got " ++ toString size ++ ")")))
      else if count < size then
        throw (.unsuitable (.text ("too many values to unpack (expected " ++ toString count ++ ")")))
      else return items
    | some place =>
      if size + 1 < count then
        throw (.unsuitable (.text ("not enough values to unpack (expected at least " ++
          toString (count - 1) ++ ", got " ++ toString size ++ ")")))
      else
        -- The target with the star takes what the others leave.
        let width := size + 1 - count
        return items.take place ++ [.group .list ((items.drop place).take width)] ++
          items.drop (place + width)

mutual

/-- Bind the names of a target in a frame. -/
def assign (number : Nat) : Expression → TypeExpr → Eval Unit
  | .name id, t => Eval.bindName (.frame number) id t
  | .starred inner, t => assign number inner t
  | .group _ targets, t => do
    let star := targets.findIdx? fun
      | .starred _ => true
      | _ => false
    assignAll number targets (← cat.shared targets.length star t)
  | _, _ => throw .contradiction

/-- Bind the names of some targets in a frame. -/
def assignAll (number : Nat) : List Expression → List TypeExpr → Eval Unit
  | e :: es, t :: ts => do
    assign number e t
    assignAll number es ts
  | _, _ => return

end

/-- What is gathered of what a comprehension yields. -/
def gathered (grouping : Option Grouping) (it : Iterator) : Eval TypeExpr := do
  match grouping with
  | none => Eval.iterator (.other "generator") it
  | some .set => do cat.setOf (← Eval.exhausted it)
  | some .dict => do
    let entries ← Eval.exhausted it
    match TypeExpr.changingPartOf? (keysOf entries) with
    | some part => Eval.refuse (.unhashable (cat.kindName part))
    | none => return .group .dict (mergedEntries [] entries)
  | some g => return .group g (← Eval.exhausted it)

/-! ## Functions that look at the scope in which they are called -/

/-- The names of a layer. -/
def layerEntries : Layer → List (String × TypeExpr)
  | .names bindings => bindings
  | .module m =>
    [("__name__", ofText? m)] ++ cat.names ++ cat.ownNames.filterMap fun ((owner, name), t) =>
      if owner = m then some (name, t) else none
  | .body c => cat.bodyEntries c

/-- The dictionary of the names of some layers. -/
def namespaceOf (layers : List Layer) : TypeExpr :=
  let entries := layers.flatMap cat.layerEntries
  dictionary (entries.foldl (fun known (name, t) =>
    if known.any (·.1 = name) then known else known ++ [(name, t)]) [])

/-- The scope that some dictionaries make. -/
def scopeOf (scope : Scope) : List TypeExpr → Scope
  | [] => scope
  | dictionaries =>
    let layers := dictionaries.map fun t => Layer.names <| ((entries? t).getD []).filterMap fun
      | .group .tuple [.constant (.string name), value] => some (name, value)
      | _ => none
    -- The first dictionary holds the outer names, the second the inner ones.
    ⟨layers.drop 1, layers.take 1, scope.owner, []⟩

/-- What a call means of a function that looks at the scope in which it is called, if the function is
such a one. -/
def callInScope? (invoke : Caller) (scope : Scope) (function : TypeExpr) (args : Arguments) :
    Option (Eval TypeExpr) :=
  match function, args.positional with
  | .function "globals", [] => some (return cat.namespaceOf scope.outer)
  | .function "locals", [] | .function "vars", [] =>
    some do
      match scope.frames.head? with
      | none =>
        return cat.namespaceOf (if scope.inner.isEmpty then scope.outer else scope.inner)
      | some frame =>
        let bound := (← get).bound
        return dictionary (frame.names.filterMap fun name =>
          (bound.lookup (.frame frame.number, name)).map fun t => (name, t))
  | .function "eval", .constant (.string text) :: dictionaries =>
    some do
      match Expression.parse (Text.trimLeft text.toList) with
      | .error _ => throw (.notExpression text)
      | .ok body =>
        let f ← Eval.keep
          { parameters := [], body, names := [], isText := true, scope := scopeOf scope dictionaries }
        invoke f ⟨[], []⟩
  | _, _ => none

/-! ## Expressions -/

mutual

/-- What an expression means in a scope. -/
def evalWith (invoke : Caller) (scope : Scope) : Expression → Eval TypeExpr
  | .name id =>
    cat.lookup scope id
  | .constant c => return .constant c
  | .attribute value name => do
    cat.attributeOf (← evalWith invoke scope value) (scope.mangled name)
  | .index value key => do
    let value ← evalWith invoke scope value
    let key ← evalWith invoke scope key
    match cat.boundSubscription? value with
    | some function => invoke function ⟨[key], []⟩
    | none => cat.subscript value key
  | .call function arguments => do
    let function ← evalWith invoke scope function
    let args ← evalArguments invoke scope function arguments
    (cat.callInScope? invoke scope function args).getD (invoke function args)
  | .group .set items => do cat.setOf (← evalItems invoke scope true items)
  | .group .dict items => do
    return .group .dict (mergedEntries [] (← evalEntries invoke scope items))
  | .group g items => do return .group g (← evalItems invoke scope false items)
  | .conditional test body alternative => do
    if cat.isTrue (← evalWith invoke scope test) then evalWith invoke scope body else evalWith invoke scope alternative
  | .all operands => evalOperands invoke scope false operands
  | .any operands => evalOperands invoke scope true operands
  | .unary op operand => do cat.applyUnary op (← evalWith invoke scope operand)
  | .binary op left right => do
    let left ← evalWith invoke scope left
    cat.combine op left (← evalWith invoke scope right)
  | .comparison first rest => do evalComparisons invoke scope (← evalWith invoke scope first) rest
  | .slice lower upper step => do
    let lower ← evalWith invoke scope lower
    let upper ← evalWith invoke scope upper
    return .object none (.builtin .slice) [lower, upper, ← evalWith invoke scope step]
  | .missing => return .constant .none
  | .starred inner => do return .group .tuple (← cat.unpack (← evalWith invoke scope inner))
  | .entry key value => do
    let key ← evalWith invoke scope key
    return .group .tuple [key, ← evalWith invoke scope value]
  | .lambda parameters body => do
    let parameters ← evalParameters invoke scope parameters
    Eval.keep
      { parameters, body, scope, isText := false
        names := parameters.map (·.name) ++ body.boundNames }
  | .comprehension grouping item (.clause target source conditions :: clauses) => do
    -- The first source is read outside the frame of the comprehension, the others inside.
    let items ← cat.itemsOf (← evalWith invoke scope source)
    let names := target.targetNames ++ Expression.targetNamesOfAll clauses
    let (number, inside) ← Scope.entered scope names true
    let produce : Eval Iterator := do return ⟨[← evalWith invoke inside item], none⟩
    let it ← Eval.rounds (fun t => do
      cat.assign number target t
      if ← evalConditions invoke inside conditions then
        evalClauses invoke inside number produce clauses
      else return ⟨[], none⟩) items
    cat.gathered grouping it
  | .formatted parts => do
    let texts ← evalItems invoke scope false parts
    return .ofText (String.join (texts.filterMap TypeExpr.asText?))
  | .field value conversion format => do
    let t ← evalWith invoke scope value
    -- The format is read before the value is converted.
    let layout ← evalWith invoke scope format
    let t := match conversion with
      | some c => .ofText (cat.converted c t)
      | none => t
    return .ofText (← cat.formatted t (layout.asText?.getD ""))
  | .binding id value => do
    let t ← evalWith invoke scope value
    Eval.bindName (scope.bindingPlace) (scope.mangled id) t
    return t
  | .doubleStarred _ | .keyword _ _ | .comprehension _ _ _ | .clause _ _ _ | .parameter _ _ _ =>
    throw .contradiction

/-- The items of a grouping. -/
def evalItems (invoke : Caller) (scope : Scope) (ofSet : Bool) : List Expression → Eval (List TypeExpr)
  | [] => return []
  | .starred inner :: es => do
    let t ← evalWith invoke scope inner
    let items ← if ofSet then cat.itemsOf t else cat.unpack t
    return items ++ (← evalItems invoke scope ofSet es)
  | e :: es => do
    let t ← evalWith invoke scope e
    return t :: (← evalItems invoke scope ofSet es)

/-- The entries of a dictionary, the last of equal keys first met. -/
def evalEntries (invoke : Caller) (scope : Scope) : List Expression → Eval (List TypeExpr)
  | [] => return []
  | .entry key value :: es => do
    let key ← evalWith invoke scope key
    let value ← evalWith invoke scope value
    -- Each key is checked before the next entry is read.
    match key.changingPart? with
    | some part => Eval.refuse (.unhashable (cat.kindName part))
    | none =>
      let entry : TypeExpr := .group .tuple [key, value]
      return mergedEntries [entry] (← evalEntries invoke scope es)
  | .doubleStarred inner :: es => do
    let entries ← cat.unpackEntries (← evalWith invoke scope inner)
    return mergedEntries entries (← evalEntries invoke scope es)
  | _ :: es => evalEntries invoke scope es

/-- The parameters of a function without a name. -/
def evalParameters (invoke : Caller) (scope : Scope) :
    List Expression → Eval (List ClosureParameter)
  | [] => return []
  | .parameter kind id .missing :: es => do
    return ⟨kind, id, none⟩ :: (← evalParameters invoke scope es)
  | .parameter kind id default :: es => do
    let t ← evalWith invoke scope default
    return ⟨kind, id, some t⟩ :: (← evalParameters invoke scope es)
  | _ :: es => evalParameters invoke scope es

/-- Whether all conditions of a round hold. -/
def evalConditions (invoke : Caller) (scope : Scope) : List Expression → Eval Bool
  | [] => return true
  | e :: es => do
    if cat.isTrue (← evalWith invoke scope e) then evalConditions invoke scope es
    else return false

/-- What the inner clauses of a comprehension yield. -/
def evalClauses (invoke : Caller) (scope : Scope) (number : Nat) (produce : Eval Iterator) :
    List Expression → Eval Iterator
  | [] => produce
  | .clause target source conditions :: clauses => do
    let items ← cat.itemsOf (← evalWith invoke scope source)
    Eval.rounds (fun t => do
      cat.assign number target t
      if ← evalConditions invoke scope conditions then
        evalClauses invoke scope number produce clauses
      else return ⟨[], none⟩) items
  | _ :: _ => throw .contradiction

/-- The first operand that decides, or else the last. -/
def evalOperands (invoke : Caller) (scope : Scope) (decisive : Bool) : List Expression → Eval TypeExpr
  | [] => return .constant .none
  | [e] => evalWith invoke scope e
  | e :: es => do
    let t ← evalWith invoke scope e
    if cat.isTrue t == decisive then return t else evalOperands invoke scope decisive es

/-- Comparisons in a row: all have to hold. -/
def evalComparisons (invoke : Caller) (scope : Scope) (left : TypeExpr) :
    List (Comparison × Expression) → Eval TypeExpr
  | [] => return .ofBool true
  | (op, e) :: rest => do
    let right ← evalWith invoke scope e
    if ← cat.compare op left right then evalComparisons invoke scope right rest
    else return .ofBool false

/-- The arguments of a call. -/
def evalArguments (invoke : Caller) (scope : Scope) (function : TypeExpr) : List Expression → Eval Arguments
  | [] => return ⟨[], []⟩
  | .starred inner :: es => do
    let t ← evalWith invoke scope inner
    match ← cat.takeItems? t with
    | none => Eval.refuse (.starArgument (cat.functionText function) false (cat.kindName t))
    | some items =>
      let rest ← evalArguments invoke scope function es
      return { rest with positional := items ++ rest.positional }
  | .doubleStarred inner :: es => do
    let t ← evalWith invoke scope inner
    match entries? t with
    | some entries =>
      let rest ← evalArguments invoke scope function es
      let named := entries.filterMap fun
        | .group .tuple [.constant (.string n), v] => some (n, v)
        | _ => none
      return { rest with named := named ++ rest.named }
    | none => Eval.refuse (.starArgument (cat.functionText function) true (cat.kindName t))
  | .keyword name value :: es => do
    let t ← evalWith invoke scope value
    let rest ← evalArguments invoke scope function es
    return { rest with named := (name, t) :: rest.named }
  | e :: es => do
    let t ← evalWith invoke scope e
    let rest ← evalArguments invoke scope function es
    return { rest with positional := t :: rest.positional }

end

mutual

/-- A type without what is attached to its parts. -/
def bare : TypeExpr → TypeExpr
  | .annotated inner _ => bare inner
  | .subscript (.form .required) [t] | .subscript (.form .notRequired) [t] => bare t
  | .subscript head args => .subscript head (bareAll args)
  | .union style members => .unionOf style (bareAll members)
  | t => t

/-- Some types without what is attached to their parts. -/
def bareAll : List TypeExpr → List TypeExpr
  | [] => []
  | t :: ts => bare t :: bareAll ts

end

/-- The resolved annotations of a class as a dictionary, with what is attached to them if it is asked
for. -/
def hintsOf (ev : Evaluator) (t : TypeExpr) (args : Arguments) : Eval TypeExpr := do
  match t with
  | .cls id classArgs =>
    let hints ← cat.hintsBy ev ⟨id, classArgs⟩
    if (args.named.lookup "include_extras").any cat.isTrue then return dictionary hints
    else return dictionary (hints.map fun (name, t) => (name, bare t))
  | t => Eval.refuse (.argumentText
      (cat.display t ++ " is not a module, class, method, or function."))

/-- What `function(…)` means, where calls may be `depth` deep inside each other. -/
def callAt : (depth : Nat) → Caller
  | 0, _, _ => throw .tooDeep
  | depth + 1, .closure n, args => do
    match (← get).closures.lookup n with
    | none => throw .contradiction
    | some f => do
      let values ← f.bind args
      -- A text is read in the scope it was given; a function has a frame of its own.
      if f.isText then cat.evalWith (callAt depth) f.scope f.body
      else
        let (number, inside) ← Scope.entered f.scope f.names false
        for (name, t) in values do Eval.bindName (.frame number) name t
        cat.evalWith (callAt depth) inside f.body
  | depth + 1, .function "get_type_hints", ⟨t :: others, named⟩ =>
    cat.hintsOf (fun scope e => cat.evalWith (callAt depth) scope e) t ⟨t :: others, named⟩
  | depth + 1, function, args => cat.callWith (callAt depth) function args

/-- How deep calls may be inside each other. -/
def callDepth : Nat := 960

/-- What `function(…)` means. -/
def call : Caller := cat.callAt callDepth

/-- What an expression means in a scope. -/
def eval (scope : Scope) (e : Expression) : Eval TypeExpr := cat.evalWith cat.call scope e

end TypeSchema.Catalog
