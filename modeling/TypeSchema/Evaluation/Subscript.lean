import TypeSchema.Evaluation.Parameters
/-!
# Subscription of types

What brackets after a type mean: after a special form, a name of the `typing` module, a class
whose arguments are kept as they are written, and a generic class. Generic data models are the matter of
`TypeSchema.Evaluation.Model`, and values that are no types that of
`TypeSchema.Evaluation.Item`.
-/

namespace TypeSchema.Catalog

variable (cat : Catalog)

/-- The parameters of a callable by what is written first in its brackets. -/
def parameterValues : TypeExpr → List TypeExpr
  | .group .list items | .group .tuple items => items
  | t => [t]

/-- A special form that takes one type. -/
def subscriptSingle (f : SpecialForm) (message : String) (key : TypeExpr) : Eval TypeExpr := do
  return .subscript (.form f) [← cat.demanded (.argument message) key]

/-- A union of the types that some values stand for. -/
def unionOfValues (values : List TypeExpr) : Eval TypeExpr :=
  Eval.remembering (.form .union) (.group .tuple values) TypeExpr.same do
    if values.isEmpty then Eval.refuse (.noTypes "Union")
    let members ← cat.demandedAll (.argument "Union[arg, ...]: each arg must be a type.") values
    match TypeExpr.changingPartOf? members with
    | some part => Eval.refuse (.unhashable (cat.kindName part))
    | none => return .unionOf .named members

/-- The parameters of a callable that others stand before. -/
def concatenation (values : List TypeExpr) : Eval TypeExpr := do
  match values.getLast? with
  | none => Eval.refuse (.noTypes "Concatenate")
  | some (.constant .ellipsis) =>
    let demand := Demand.argument "Concatenate[arg, ...]: each arg must be a type."
    return .subscript (.form .concatenate)
      ((← cat.demandedAll demand values.dropLast) ++ [.constant .ellipsis])
  | some _ => Eval.refuse .lastOfConcatenation

/-- What brackets after a special form mean, where they were not written before. -/
def subscriptNewForm (f : SpecialForm) (key : TypeExpr) : Eval TypeExpr :=
  match f with
  | .optional => do
    let t ← cat.demanded (.argument "typing.Optional requires a single type.") key
    cat.unionOfValues [t, .noneType]
  | .union => cat.unionOfValues key.keys
  | .literal => return .literalOf key.keys
  | .concatenate => cat.concatenation key.keys
  | .classVar | .final | .typeGuard | .unpack =>
    cat.subscriptSingle f (f.display ++ " accepts only single type.") key
  | .required | .notRequired =>
    cat.subscriptSingle f (f.name ++ " accepts only a single type.") key
  | .keywordOnly => Eval.refuse (.notSubscriptable "'_KW_ONLY_TYPE' object")
  | .literalString | .never | .noReturn | .selfType | .typeAlias =>
    Eval.refuse (.notSubscriptable f.display)

/-- What brackets after a special form mean. The values of a literal are told apart by their
classes. -/
def subscriptForm (f : SpecialForm) (key : TypeExpr) : Eval TypeExpr :=
  let isSame (x y : TypeExpr) : Bool :=
    x.same y && (f ≠ .literal || (x.keys.zip y.keys).all fun (v, w) => v.sameClass w)
  Eval.remembering (.form f) key isSame (cat.subscriptNewForm f key)

/-- The name of callables at arguments. -/
def subscriptCallable (key : TypeExpr) : Eval TypeExpr :=
  match key with
  | .group .tuple [parameters, result] =>
    let written := parameterValues parameters
    let key : TypeExpr := .group .tuple [.group .tuple written, result]
    Eval.remembering (.typingName .callable) key TypeExpr.same do
      let demand := Demand.argument "Callable[args, result]: result must be a type."
      let result ← cat.demanded demand result
      let parameters ← written.mapM fun p => typed p none false
      return .subscript (.typingName .callable) (parameters ++ [result])
  | _ => Eval.refuse .callableShape

/-- The name of tuples at arguments. -/
def subscriptTuple (args : List TypeExpr) : Eval TypeExpr := do
  if 2 ≤ args.length ∧ args.getLast? = some (.constant .ellipsis) then
    let ts ← cat.demandedAll (.argument "Tuple[t, ...]: t must be a type.") args.dropLast
    return .subscript (.typingName .tuple) (ts ++ [.constant .ellipsis])
  else
    let demand := Demand.argument "Tuple[t0, t1, ...]: each t must be a type."
    return .subscript (.typingName .tuple) (← cat.demandedAll demand args)

/-- What brackets after a name of the `typing` module mean. -/
def subscriptAlias (a : Alias) (key : TypeExpr) : Eval TypeExpr :=
  match a with
  | .callable => cat.subscriptCallable key
  | a => Eval.remembering (.typingName a) key TypeExpr.same do
    if a = .tuple then return ← cat.subscriptTuple key.keys
    let shown := "typing." ++ a.name
    let args ← cat.demandedAll .generic key.keys
    match a.arity? with
    | none => pure ()
    | some 0 => Eval.refuse (.notGeneric shown)
    | some n => checkCount shown args.length n ""
    return .subscript (.typingName a) args

/-- A value as it is printed, where texts stand without quotes. -/
def printed : TypeExpr → String
  | .constant (.string s) => s
  | t => cat.display t

/-- A class at arguments that are kept as they are written. -/
def subscriptDirect (id : ClassId) (key : TypeExpr) : Eval TypeExpr :=
  if id = .builtin .abcCallable then
    match key with
    | .group .tuple [parameters, result] =>
      match parameters with
      | .group .list items | .group .tuple items =>
        return .subscript (.direct id) (items ++ [result])
      | p =>
        if p.isParameterList then return .subscript (.direct id) [p, result]
        else Eval.refuse (.callableParameters (cat.printed p))
    | _ => Eval.refuse .callableShape
  else return .subscript (.direct id) key.keys

/-- The built-in classes whose instances name no module as theirs. -/
def moduleless : List Builtin :=
  [.object, .frozenset, .range, .slice, .bytearray, .list, .dict, .set, .tuple]

/-- A type with more attached to it. A value that names no module as its own is not taken. -/
def annotated (inner : TypeExpr) (metadata : List TypeExpr) : Eval TypeExpr :=
  let refused : Eval TypeExpr :=
    throw (.missingAttribute (some (listed [cat.kindName inner] ++ " object")) "__module__")
  match inner with
  | .module m => throw (.missingInModule m "__module__")
  | .constant .none | .constant (.decimal _) => return inner.annotate metadata
  | .constant _ | .group _ _ => refused
  | .object _ (.builtin b) _ =>
    if moduleless.contains b then refused else return inner.annotate metadata
  | inner => return inner.annotate metadata

/-- A type with what is attached to it. -/
def subscriptAnnotated (key : TypeExpr) : Eval TypeExpr :=
  Eval.remembering (.builtin .annotated) key TypeExpr.same <|
    match key.keys with
    | inner :: first :: more => do
      let inner ← cat.demanded ⟨"Annotated[t, ...]: t must be a type.", true, true, none⟩ inner
      cat.annotated inner (first :: more)
    | _ => Eval.refuse .annotationShape

/-- A generic class at arguments. -/
def subscriptGeneric (c : ClassRef) (key : TypeExpr) : Eval TypeExpr :=
  Eval.remembering c.toExpr key TypeExpr.same do
    let args ← key.keys.mapM fun k => typed k none false
    if isGenericBase c.toExpr then
      let vars := args.filterMap fun
        | .typeVar v => some v
        | _ => none
      let refuse (rule : ParameterRule) : Eval Unit := Eval.refuse (.parameters (cat.nameOf c) rule)
      if args.isEmpty then refuse .notEmpty
      if vars.length ≠ args.length then refuse .allVariables
      if vars.eraseDups ≠ vars then refuse .allDifferent
    else
      let shown := cat.display c.toExpr
      let params := (cat.info c.id).params
      if params.isEmpty then Eval.refuse (.notGeneric shown)
      checkCount shown args.length params.length "at least "
    return .subscript (.generic c.id) args

end TypeSchema.Catalog
