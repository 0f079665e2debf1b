import TypeSchema.Catalog.Display
import TypeSchema.Evaluation.Error
/-!
# The course of an evaluation

An evaluation is an `Eval`. It may fail, and it leaves a `Trace`: objects that are told apart by a
number take one, the generic models that were given arguments are noted, and what brackets of the
`typing` module mean is remembered: they mean the same thing wherever the same is written again, even
if it is written in another order. Functions without a name are kept with the scope in which they were
made, and iterators with the items that they have yet to yield.
-/

namespace TypeSchema

/-- Names that are looked up together. -/
inductive Layer where
  | names (bindings : List (String × TypeExpr))
  | module (name : String)
  | body (c : ClassRef)
  deriving Inhabited, Repr

/-- The names of one call of a function without a name, or of the rounds of a comprehension. -/
structure Frame where
  number : Nat
  names : List String
  /-- Whether the frame is that of a comprehension. The names that `:=` binds there belong to what stands
  around it. -/
  isComprehension : Bool
  deriving Inhabited, Repr

/-- Where names are looked up. -/
structure Scope where
  inner : List Layer
  outer : List Layer
  /-- The name of the class whose private names count as such. -/
  owner : Option String
  /-- The frames in which the expression stands, the innermost first. In a frame the inner layers are
  not visible. -/
  frames : List Frame
  deriving Inhabited, Repr

/-- Where a name is bound that is in no layer. -/
inductive Binding where
  | frame (number : Nat)
  /-- Before the inner layers. -/
  | inner
  /-- Before the outer layers. -/
  | outer
  deriving DecidableEq, Repr

/-- A parameter of a function without a name, and the value that stands in where no argument is
given. -/
structure ClosureParameter where
  kind : ParameterKind
  name : String
  default : Option TypeExpr
  deriving Repr

/-- A function without a name. -/
structure Closure where
  parameters : List ClosureParameter
  body : Expression
  /-- The names of its frame. -/
  names : List String
  /-- Whether it stands for the text of an expression, which has no frame of its own. -/
  isText : Bool
  /-- Where it was made. -/
  scope : Scope
  deriving Repr

/-- What an iterator has yet to yield. -/
structure Iterator where
  items : List TypeExpr
  /-- Why it fails after them, if it does. -/
  failure : Option EvalError
  deriving Repr

/-- What an evaluation leaves besides its value. -/
structure Trace where
  /-- The number of the next object that is told apart by one. -/
  serial : Nat
  /-- The generic models that were given arguments, in order; each with the module at whose top
  level that happened, if it did. -/
  instances : List (ClassRef × Option String)
  /-- What brackets meant that were written so far. -/
  written : List WrittenBrackets
  /-- The module at whose top level the evaluation stands, if it does. -/
  topLevel : Option String
  /-- The functions without a name that were made so far, by their numbers. -/
  closures : List (Nat × Closure)
  /-- The iterators that were made or moved so far, by their numbers, the newest first. -/
  iterators : List (Nat × Iterator)
  /-- The names that were bound on the way, the newest first. -/
  bound : List ((Binding × String) × TypeExpr)
  deriving Repr

/-- The trace of an evaluation that has yet to begin. -/
def Catalog.newTrace (cat : Catalog) (topLevel : Option String) : Trace :=
  { serial := cat.serial, instances := [], written := cat.written, topLevel, closures := [],
    iterators := [], bound := [] }

/-- An evaluation. -/
abbrev Eval := StateT Trace (Except EvalError)

namespace Eval

/-- Fail because a value is used in a way that its kind does not allow. -/
def refuse {α : Type} (fault : TypeFault) : Eval α := throw (.misused fault)

/-- A number that no other object has. -/
def fresh : Eval Nat := modifyGet fun trace => (trace.serial, { trace with serial := trace.serial + 1 })

/-- Note that a generic model was given arguments at the top level of a module, or elsewhere. -/
def note (c : ClassRef) (topLevel : Option String) : Eval Unit :=
  modify fun trace => { trace with instances := trace.instances ++ [(c, topLevel)] }

/-- The value of an evaluation that leaves no trace. -/
def value {α : Type} (action : Eval α) (cat : Catalog) : Except EvalError α :=
  (action.run (cat.newTrace none)).map Prod.fst

/-- An evaluation and its failure, if it fails. What fails leaves no trace. -/
def observe {α : Type} (action : Eval α) : Eval (Except EvalError α) := fun trace =>
  match action.run trace with
  | .ok (a, trace) => .ok (.ok a, trace)
  | .error e => .ok (.error e, trace)

/-- Bind a name. -/
def bindName (place : Binding) (name : String) (value : TypeExpr) : Eval Unit :=
  modify fun trace => { trace with bound := ((place, name), value) :: trace.bound }

/-- An iterator of a class. -/
def iterator (b : Builtin) (it : Iterator) : Eval TypeExpr := do
  let n ← fresh
  modify fun trace => { trace with iterators := (n, it) :: trace.iterators }
  return .object (some n) (.builtin b) []

/-- What a value has yet to yield, if it is an iterator. -/
def iterator? (t : TypeExpr) : Eval (Option (Nat × Iterator)) := do
  match t with
  | .object (some n) _ _ => return ((← get).iterators.lookup n).map fun it => (n, it)
  | _ => return none

/-- Move an iterator. -/
def move (n : Nat) (it : Iterator) : Eval Unit :=
  modify fun trace => { trace with iterators := (n, it) :: trace.iterators }

/-- The values of some evaluations, up to the first that fails. -/
def gather : List (Eval TypeExpr) → Eval Iterator
  | [] => return ⟨[], none⟩
  | action :: rest => do
    match ← observe action with
    | .ok t =>
      let it ← gather rest
      return { it with items := t :: it.items }
    | .error e => return ⟨[], some e⟩

/-- What the rounds over some items yield one after the other, up to the first failure. -/
def rounds (body : TypeExpr → Eval Iterator) : List TypeExpr → Eval Iterator
  | [] => return ⟨[], none⟩
  | t :: ts => do
    match ← observe (body t) with
    | .error e => return ⟨[], some e⟩
    | .ok ⟨items, some e⟩ => return ⟨items, some e⟩
    | .ok ⟨items, none⟩ =>
      let rest ← rounds body ts
      return { rest with items := items ++ rest.items }

/-- Keep a function without a name. -/
def keep (f : Closure) : Eval TypeExpr := do
  let n ← fresh
  modify fun trace => { trace with closures := (n, f) :: trace.closures }
  return .closure n

/-- All that an iterator yields. -/
def exhausted (it : Iterator) : Eval (List TypeExpr) :=
  match it.failure with
  | none => return it.items
  | some e => throw e

/-- An evaluation that does not stand at the top level of a module. -/
def nested {α : Type} (action : Eval α) : Eval α := do
  let outside := (← get).topLevel
  modify fun trace => { trace with topLevel := none }
  let a ← action
  modify fun trace => { trace with topLevel := outside }
  return a

/-- What brackets after something of the `typing` module mean. What is found is remembered, unless a
part of it may change. -/
def remembering (head key : TypeExpr) (isSame : TypeExpr → TypeExpr → Bool)
    (find : Eval TypeExpr) : Eval TypeExpr := do
  if (TypeExpr.changingPartOf? [head, key]).isSome then find
  else match (← get).written.find? fun w => w.head.same head && isSame w.key key with
    | some known => return known.meaning
    | none => do
      let meaning ← find
      modify fun trace => { trace with written := trace.written ++ [⟨head, key, meaning⟩] }
      return meaning

end Eval

end TypeSchema
