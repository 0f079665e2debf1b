import TypeSchema.Catalog.Hints
/-!
# Types of the fields of models

When a model is rebuilt, what its fields may hold is worked out from their types. The types are
gone through from left to right, with the fields of the records among them, and each class once. Not
every type is taken: typed dictionaries of the `typing` module are refused. A name that is not
defined yet ends the work early, and the model is left as it is.

`Catalog.checkFields` says whether the types of some fields are taken.
-/

namespace TypeSchema

/-- Why going through types ends early. -/
inductive Obstacle where
  /-- A typed dictionary. -/
  | typedDict
  /-- A name that is not defined. -/
  | undefined
  deriving DecidableEq, Repr

/-- Going through types, with the classes that were met. -/
abbrev Admission := StateT (List ClassRef) (Except Obstacle)

namespace Catalog

variable (cat : Catalog)

/-- The built-in classes whose arguments are types of what their instances hold. -/
def contentClasses : List Builtin :=
  [.tuple, .list, .abcMutableSequence, .set, .abcMutableSet, .frozenset, .abcSet, .dict, .deque,
   .abcMapping, .abcMutableMapping, .orderedDict, .defaultDict, .counter, .abcSequence,
   .abcIterable, .abcGenerator]

/-- Whether the arguments after a head are types of what is held. -/
def holdsArguments : Head → Bool
  | .typingName a => contentClasses.contains a.origin
  | .direct (.builtin b) | .flat (.builtin b) => contentClasses.contains b
  | .form .final => true
  | _ => false

mutual

/-- Go through the parts of a type; classes and synonyms are left to `visit`. -/
def admitParts (visit : TypeExpr → Admission Unit) : TypeExpr → Admission Unit
  | .subscript head args =>
    if holdsArguments head then admitAll visit args
    else match head with
      | .direct id | .flat id | .generic id => visit (.cls id [])
      | _ => return
  | .union _ members => admitAll visit members
  | .annotated inner _ => admitParts visit inner
  | .forwardRef _ _ _ | .constant (.string _) => throw .undefined
  | t => visit t

/-- Go through the parts of some types. -/
def admitAll (visit : TypeExpr → Admission Unit) : List TypeExpr → Admission Unit
  | [] => return
  | t :: ts => do
    admitParts visit t
    admitAll visit ts

end

/-- The types of the fields of a record, if a class is one. -/
def recordTypes? (c : ClassRef) : Option (Except EvalError (List TypeExpr)) :=
  match cat.dataclassFields? c with
  | some fields =>
    some do
      let hints ← cat.hints c
      return (fields.filter (·.role = .stored)).map fun f => (hints.lookup f.name).getD f.written
  | none =>
    if (cat.mro c).any fun d => (cat.info d.id).tupleFields.isSome then
      some do return (← cat.hints c).map Prod.snd
    else none

/-- Go through a class, or through what another name of a type stands for, at most `depth` classes
deep. -/
def admitClass : (depth : Nat) → TypeExpr → Admission Unit
  | 0, _ => return
  | depth + 1, .newType v =>
    match cat.supertypes.lookup v with
    | some t => admitParts (admitClass depth) t
    | none => return
  | depth + 1, .cls id args => do
    let c : ClassRef := ⟨id, args⟩
    -- A class that was met is not entered again, so types that mention themselves come to an end.
    if (← get).contains c || cat.isEnumeration c then return
    modify (c :: ·)
    if cat.isTypedDict c then throw .typedDict
    match (cat.info id).model with
    | some m =>
      if m.fields.any (·.pending.isSome) then throw .undefined
      -- The fields of a generic model at arguments are not gone into.
      else if args.isEmpty then admitAll (admitClass depth) (m.fields.map (·.type))
    | none =>
      match cat.recordTypes? c with
      | some (.ok types) => admitAll (admitClass depth) types
      | some (.error _) => throw .undefined
      | none => return
  | _ + 1, _ => return

/-- How many classes can lie inside each other. -/
def admissionDepth : Nat := cat.classes.length + cat.instances.length + cat.supertypes.length + 2

/-- Check that the fields of a model have types that are taken. As long as one is left to resolve,
nothing is checked. -/
def checkFields (c : ClassRef) (fields : List ModelField) : Except EvalError Unit :=
  if fields.any (·.pending.isSome) then .ok ()
  else
    let types := fields.map (·.type)
    match (admitAll (cat.admitClass cat.admissionDepth) types).run [c] with
    | .error .typedDict => .error .typedDictInModel
    | .error .undefined | .ok _ => .ok ()

end Catalog

end TypeSchema
