import TypeSchema.Evaluation.Function
/-!
# Calls

What `value(…)` means. A class makes an instance: records take the values of their fields, and an
enumeration gives the member of a value. Of the classes and functions that are in scope
everywhere, those are modelled that make or measure plain values.
-/

namespace TypeSchema

namespace Catalog

variable (cat : Catalog)

/-- The member of an enumeration with a value. -/
def memberOf (c : ClassRef) (value : TypeExpr) : Eval TypeExpr :=
  let found := (cat.info c.id).attributes.findSome? fun (_, t) =>
    match t with
    | .member owner _ own =>
      if owner = c.id && (own.same value || t.same value) then some t else none
    | _ => none
  match found with
  | some m => return m
  | none =>
    match value with
    | .constant (.int n) =>
      if cat.derives c .flag && 0 ≤ n && Number.lor n (cat.flagMask c.id) = cat.flagMask c.id then
        return cat.flagOf c.id n
      else throw (.notAMember (cat.display value) (cat.qualnameOf c))
    | value => throw (.notAMember (cat.display value) (cat.qualnameOf c))

/-- The built-in class that makes the instances of a class. -/
def instanceMaker? (c : ClassRef) : Option Builtin :=
  (cat.mro c).findSome? fun d =>
    match d.id with
    | .builtin b => if b.makesInstances then some b else none
    | .declared _ => none

/-- What a class makes of its arguments. -/
def makeInstance (c : ClassRef) (args : Arguments) : Eval TypeExpr := do
  let tupleFields := (cat.mro c).findSome? fun d => (cat.info d.id).tupleFields
  let parameter (name : String) (hasDefault : Bool) : Parameter :=
    ⟨name, if hasDefault then some (.constant .none) else none⟩
  if cat.isEnumeration c then
    match args.positional with
    | [] => Eval.refuse (.missingArguments "EnumType.__call__()" "positional" ["value"])
    | value :: _ => cat.memberOf c value
  else match c.id, tupleFields, cat.dataclassFields? c with
    | .builtin b, _, _ => cat.makeBuiltin b args
    | id, some fields, _ =>
      let params := fields.map fun (name, hasDefault) => parameter name hasDefault
      return .object none id (← Parameter.bind (cat.nameOf c ++ ".__new__()") true params args)
    | id, none, some fields =>
      let stored := fields.filter (·.role = .stored)
      let params := stored.map fun f => parameter f.name f.hasDefault
      -- Messages name the class whose initialiser runs, which may be an ancestor.
      let maker := (cat.mro c).find? fun d => (cat.info d.id).dataFields.isSome
      let function := cat.qualnameOf (maker.getD c) ++ ".__init__()"
      return .object none id (← Parameter.bind function false params args)
    | id, none, none =>
      if cat.isTypedDict c then cat.makeBuiltin .dict args
      else match cat.instanceMaker? c with
        | some .type => Eval.refuse (.argumentText
            ("type.__new__() takes exactly 3 arguments (" ++ toString args.positional.length ++
              " given)"))
        | some b => do
          let made ← cat.makeBuiltin b args
          return .object (some (← Eval.fresh)) id
            (if b = .tuple then (cat.items? made).getD [] else [made])
        | none =>
          if args.positional.isEmpty ∧ args.named.isEmpty then
            return .object (some (← Eval.fresh)) id []
          else Eval.refuse (.takesNothing (cat.nameOf c))

/-- What `function(…)` means, if the function is no function without a name. -/
def callWith (invoke : Caller) (function : TypeExpr) (args : Arguments) : Eval TypeExpr :=
  let ofAlias (a : Alias) : Eval TypeExpr :=
    if a.isAbstract then Eval.refuse (.useOrigin a.name a.origin.name)
    else cat.makeInstance (.builtin a.origin) args
  match function with
  | .cls (.builtin b) classArgs =>
    (cat.makeIterator? invoke b args).getD (cat.makeInstance ⟨.builtin b, classArgs⟩ args)
  | .cls id classArgs => cat.makeInstance ⟨id, classArgs⟩ args
  | .method owner name => cat.applyMethod owner name args
  | .typingName a | .subscript (.typingName a) _ => ofAlias a
  | .subscript (.direct id) _ | .subscript (.flat id) _ | .subscript (.generic id) _
  | .unpacked (.subscript (.direct id) _) =>
    cat.makeInstance ⟨id, []⟩ args
  | .annotated inner _ => callWith invoke inner args
  | .form .keywordOnly => Eval.refuse (.notCallable (cat.kindName function))
  | .form f | .subscript (.form f) _ => Eval.refuse (.notInstantiable f.display)
  | .literal _ => Eval.refuse (.notInstantiable (SpecialForm.display .literal))
  | .union .named _ => Eval.refuse (.notInstantiable (SpecialForm.display .union))
  | .newType _ =>
    match args.positional with
    | [t] => return t
    | other =>
      Eval.refuse (.argumentText ("_typing._idfunc() takes exactly one argument (" ++
        toString other.length ++ " given)"))
  | .function name => cat.applyFunction invoke name args
  | t => Eval.refuse (.notCallable (cat.kindName t))

end Catalog

end TypeSchema
