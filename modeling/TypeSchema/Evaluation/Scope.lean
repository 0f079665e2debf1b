import TypeSchema.Evaluation.Attribute
/-!
# Scopes

Where the names of an expression are looked up. A `Scope` has inner layers, outer layers and, after
them, the names that are in scope everywhere. A layer is a list of bindings, what a module holds,
or what the body of a class holds.

In the body of a class, a name is private if it starts with two underscores and does not end in two;
it stands for a name that starts with the name of the class.
-/

namespace TypeSchema

/-- The scope of a module. -/
def Scope.ofModule (module : String) : Scope := ⟨[], [.module module], none, []⟩

/-- The name under which a field or a name is stored in the body of a class. -/
def mangledName (className name : String) : String :=
  let stem := className.toList.dropWhile (· == '_')
  if name.startsWith "__" && !name.endsWith "__" && !stem.isEmpty then
    "_" ++ String.ofList stem ++ name
  else name

/-- What a name in a scope stands for. -/
def Scope.mangled (scope : Scope) (name : String) : String :=
  match scope.owner with
  | some className => mangledName className name
  | none => name

/-- Where `:=` binds a name. -/
def Scope.bindingPlace (scope : Scope) : Binding :=
  match scope.frames.find? (!·.isComprehension) with
  | some frame => .frame frame.number
  | none => if scope.frames.isEmpty then .inner else .outer

/-- The scope of a new frame inside another scope. -/
def Scope.entered (scope : Scope) (names : List String) (isComprehension : Bool) :
    Eval (Nat × Scope) := do
  let number ← Eval.fresh
  return (number, { scope with frames := ⟨number, names, isComprehension⟩ :: scope.frames })

namespace Catalog

variable (cat : Catalog)

/-- Whether there is a module of a name, of the program or not. -/
def hasModule (name : String) : Bool :=
  cat.modules.contains name || BuiltinName.modules.contains name

/-- What a module of the program holds under a name. -/
def programMember? (module name : String) : Option TypeExpr :=
  match cat.names.lookup name <|> cat.ownNames.lookup (module, name) with
  | some t => some t
  | none =>
    if BuiltinName.modules.contains name && !name.toList.contains '.' then some (.module name)
    else match BuiltinName.programNames.lookup name with
      | some n => some n.toExpr
      | none =>
        if name = "__name__" then some (ofText? module)
        else if name = "__doc__" ∨ name = "__spec__" ∨ name = "__loader__" ∨ name = "__package__"
        then some (.constant .none)
        else none

/-- What a name means in a layer, if it means something there. -/
def inLayer? (name : String) : Layer → Option TypeExpr
  | .names bindings => bindings.lookup name
  | .module m =>
    if cat.modules.contains m then cat.programMember? m name
    else if BuiltinName.modules.contains m then moduleMember? m name
    else none
  | .body c =>
    match (cat.info c.id).attributes.lookup name with
    | some t => some t
    | none =>
      match name with
      | "__module__" => some (ofText? (cat.moduleOf c))
      | "__doc__" => some (.constant .none)
      | _ => none

/-- What a name that is in scope everywhere means. -/
def everywhere? (name : String) : Option TypeExpr :=
  match BuiltinName.plainNames.lookup name with
  | some n => some n.toExpr
  | none => if name = "__debug__" then some (.constant (.bool true)) else none

/-- What a name means in a scope. A name of a frame means nothing else, even where it has no value
yet. -/
def lookup (scope : Scope) (name : String) : Eval TypeExpr := do
  let name := scope.mangled name
  let bound := (← get).bound
  match scope.frames.find? (·.names.contains name) with
  | some frame =>
    match bound.lookup (.frame frame.number, name) with
    | some t => return t
    | none =>
      let isOwn := scope.frames.head?.any (·.number = frame.number)
      throw (.undefinedName (if isOwn then .unassigned else .unassignedOutside) name)
  | none =>
    let inside :=
      -- Inside a frame the inner layers, such as the body of a class, are not seen.
      if scope.frames.isEmpty then
        bound.lookup (.inner, name) <|> scope.inner.findSome? (cat.inLayer? name)
      else none
    let outside := bound.lookup (.outer, name) <|> scope.outer.findSome? (cat.inLayer? name)
    match inside <|> outside <|> everywhere? name with
    | some t => return t
    | none => throw (.undefinedName .undefined name)

end Catalog

end TypeSchema
