import TypeSchema.Catalog.Display
import TypeSchema.Declaration.Error
import TypeSchema.Evaluation.Parameters
/-!
# What a class is derived from

The expressions in the head of a class statement stand for classes, its *bases*. Most stand for
themselves or for the class before their brackets; a name of the `typing` module also makes the class
generic, unless a later base does. An expression that stands for no class is refused, at the latest
when the class is created.

The bases decide what creates the class (`metaclassOf?`), whose layout its instances have
(`layoutOf`), in which order its attributes are searched (`searchOrder`), and what its type
variables are (`paramsOf`).
-/

namespace TypeSchema

/-- What a class statement is derived from. -/
structure Bases where
  /-- What is written in its head. -/
  written : List TypeExpr
  /-- The classes that this stands for; other values among them are refused later. -/
  entries : List TypeExpr
  deriving Inhabited, Repr

namespace Bases

/-- The classes among the bases. -/
def classes (bases : Bases) : List ClassRef := bases.entries.filterMap TypeExpr.asClass?

/-- Whether something else is written than the classes that it stands for. -/
def isRewritten (bases : Bases) : Bool := bases.written ≠ bases.entries

end Bases

namespace Catalog

variable (cat : Catalog)

/-- Whether a base is written with a name of the `typing` module or with arguments of a generic
class. -/
def isTypingBase : TypeExpr → Bool
  | .typingName _ | .subscript (.typingName _) _ | .subscript (.generic _) _
  | .subscript (.form _) _ | .literal _ | .union .named _ | .annotated _ _ => true
  | _ => false

/-- Whether some bases make a class generic. -/
def makesGeneric : List TypeExpr → Except BaseFault Bool
  | [] => .ok false
  | t :: ts =>
    if isTypingBase t then .ok true
    else match t.asClass? with
      | some c => if cat.derives c .generic then .ok true else makesGeneric ts
      | none => .error .notAClass

/-- What one written base stands for, among all written bases and before the `later` ones. -/
def entriesOf (written later : List TypeExpr) (t : TypeExpr) : Except BaseFault (List TypeExpr) :=
  let ofAlias (a : Alias) : Except BaseFault (List TypeExpr) := do
    let origin := TypeExpr.builtin a.origin
    -- The class behind the name is left out where it is written as well.
    let first := if written.contains origin then [] else [origin]
    return first ++ if ← cat.makesGeneric later then [] else [.builtin .generic]
  match t with
  | .typingName a | .subscript (.typingName a) _ => ofAlias a
  | .subscript (.direct id) _ | .subscript (.flat id) _ | .unpacked (.subscript (.direct id) _) =>
    .ok [.cls id []]
  | .subscript (.generic id) _ =>
    -- `Protocol`, or a later base that makes the class generic, stands for this one too.
    if id = .builtin .generic ∧
        (written.contains (.builtin .protocol) ∨ later.any isTypingBase) then .ok []
    else .ok [.cls id []]
  | .annotated (.form f) _ =>
    if f = .keywordOnly then .ok [.form f] else .error (.notSubclassable (cat.display t))
  | .annotated inner _ => .ok [inner]
  | .form .keywordOnly => .ok [t]
  | .form _ | .subscript (.form _) _ | .literal _ | .union .named _ =>
    .error (.notSubclassable (cat.display t))
  | t => .ok [t]

/-- What all written bases stand for. -/
def allEntries (written : List TypeExpr) : List TypeExpr → Except BaseFault (List TypeExpr)
  | [] => .ok []
  | t :: later => do
    let first ← cat.entriesOf written later t
    return first ++ (← allEntries written later)

/-- What some written bases stand for. -/
def basesOf (written : List TypeExpr) : Except BaseFault Bases := do
  return ⟨written, ← cat.allEntries written written⟩

/-! ## What creates a class -/

/-- What created a base, if it is a class or stands for one. -/
def metaclassOfEntry? : TypeExpr → Option Metaclass
  | .cls id args => some (cat.metaclassOf ⟨id, args⟩)
  | .newType _ => some .plain
  | _ => none

/-- Whether some bases are values of one class, and no classes. -/
def areValues (entries : List TypeExpr) : Bool :=
  !entries.isEmpty && entries.all fun t =>
    (cat.metaclassOfEntry? t).isNone && cat.kindName t = (entries.head?.map cat.kindName).getD ""

/-- What creates a class with some bases: what is derived from everything that created them. -/
def metaclassOfBases (entries : List TypeExpr) : Except BaseFault Metaclass :=
  match entries with
  | .member id _ _ :: _ =>
    if cat.areValues entries then .error (.withoutAncestors (cat.info id).name)
    else .error .metaclassConflict
  | entries =>
    if cat.areValues entries then .ok .plain
    -- The winner so far gives way to what is derived from it.
    else entries.foldlM (fun winner t =>
      match cat.metaclassOfEntry? t with
      | none => .error .metaclassConflict
      | some m =>
        if winner.derives m then .ok winner
        else if m.derives winner then .ok m
        else .error .metaclassConflict) .plain

/-- What the class of some values says where a class is derived from them, the first of which is
given. -/
def valueBaseText (entries : List TypeExpr) (t : TypeExpr) : String :=
  let counts (what : String) (most : String) := what ++ "() takes at most " ++ most ++ " (3 given)"
  let single (what : String) := what ++ " expected at most 1 argument, got 3"
  let made (what : String) := what ++ " takes 3 positional arguments but 4 were given"
  match t with
  | .subscript (.direct (.builtin .abcCallable)) _ | .subscript (.flat (.builtin .abcCallable)) _ =>
    made "_CallableGenericAlias.__new__()"
  | .subscript (.direct _) _ | .subscript (.flat _) _ => "GenericAlias expected 2 arguments, got 3"
  | .subscript _ _ | .union .named _ | .literal _ => made "_GenericAlias.__init__()"
  | .typingName _ => made "_SpecialGenericAlias.__init__()"
  | .constant .none => "NoneType takes no arguments"
  | .constant .ellipsis => "EllipsisType takes no arguments"
  | .constant .notImplemented => "NotImplementedType takes no arguments"
  | .constant (.string _) => "str() argument 'encoding' must be str, not tuple"
  | .constant (.bytes _) => "bytes() argument 'encoding' must be str, not tuple"
  | .constant (.int _) => counts "int" "2 arguments"
  | .constant (.complex _ _) => counts "complex" "2 arguments"
  | .constant c => single c.className
  | .group g _ => single g.name
  | .typeVar _ =>
    "TypeVar(name, constraint, ...): constraints must be types. Got " ++
      cat.displayShort (.group .tuple entries) ++ "."
  | .initVar _ _ => "InitVar.__init__() takes 2 positional arguments but 4 were given"
  | .form .keywordOnly => "_KW_ONLY_TYPE() takes no arguments"
  | .module _ => counts "module" "2 arguments"
  | .description _ _ => "sequence item 1: expected str instance, tuple found"
  | t => "cannot create " ++ listed [cat.kindName t] ++ " instances"

/-- What the class of a value says of a keyword beside it in the head of a class, if it notices. -/
def keywordText? (t : TypeExpr) : Option String :=
  let unexpected (what : String) := what ++ " got an unexpected keyword argument 'total'"
  let counts (what : String) (most : String) := what ++ "() takes at most " ++ most ++ " (4 given)"
  match t with
  | .typeVar _ => some (unexpected "TypeVar.__init__()")
  | .initVar _ _ => some (unexpected "InitVar.__init__()")
  | .forwardRef _ _ _ => some (unexpected "ForwardRef.__init__()")
  | .constant (.string _) => some (counts "str" "3 arguments")
  | .constant (.int _) => some (counts "int" "2 arguments")
  | .subscript (.direct _) _ | .subscript (.flat _) _ =>
    some "GenericAlias() takes no keyword arguments"
  | .subscript _ _ | .union .named _ | .literal _ => some (unexpected "_GenericAlias.__init__()")
  | .typingName _ => some (unexpected "_SpecialGenericAlias.__init__()")
  | _ => none

/-- Check that all bases are classes, as far as the creation of a class notices. -/
def checkEntries (entries : List TypeExpr) (hasKeyword : Bool) : Except BaseFault Unit :=
  entries.forM fun t =>
    match cat.metaclassOfEntry? t with
    | some _ => .ok ()
    | none =>
      let text := if hasKeyword then keywordText? t else none
      .error (.value (text.getD (cat.valueBaseText entries t)))

/-! ## Layout -/

/-- The layout that the instances of a class derived from `base` have. Where they hold attributes
that instances of the base have no room for, it is a layout of its own. -/
def layoutFrom (c base : ClassRef) (isSlotted : Bool) : ClassRef :=
  if (cat.info base.id).isSlotted && !isSlotted then c else (cat.info base.id).layout

/-- The base whose layout covers those of all bases. -/
def bestBase (bases : List ClassRef) : Except BaseFault ClassRef :=
  match bases with
  | [] => .ok (.builtin .object)
  | first :: _ =>
    bases.foldlM (fun best base => do
      match base.id with
      | .builtin b => if b.isFinal then throw (BaseFault.final b.shownName)
      | .declared _ => pure ()
      let winner := (cat.info best.id).layout
      let candidate := (cat.info base.id).layout
      if (cat.mro winner).contains candidate then return best
      else if (cat.mro candidate).contains winner then return base
      else throw .layoutConflict) first

/-! ## Search order -/

/-- The order in which the attributes of a new class are searched. -/
def searchOrder (c : ClassRef) (bases : List ClassRef) : Except BaseFault (List ClassRef) := do
  let bases := if bases.isEmpty then [.builtin .object] else bases
  match (bases.zipIdx).find? fun (b, i) => (bases.drop (i + 1)).contains b with
  | some (b, _) => throw (.repeated (cat.nameOf b))
  | none => pure ()
  let orders := bases.map fun b => (b, cat.mro b)
  match Linearization.ofBases c orders with
  | some mro => return mro
  | none => throw (.inconsistent ((Linearization.blocked orders).map cat.nameOf))

/-! ## Type variables -/

/-- The text of a type variable. -/
def displayVar (v : TypeVar) : String := "~" ++ v.name

/-- The arguments of `Generic` in a written base, if it is one with arguments. -/
def genericArguments? : TypeExpr → Option (List TypeVar)
  | .subscript (.generic (.builtin .generic)) args => some (TypeExpr.parametersOf args)
  | _ => none

/-- The type variables of a class that is generic. -/
def paramsOf (bases : Bases) (metaclass : Metaclass) : Except BaseFault (List TypeVar) := do
  let generic := TypeExpr.builtin .generic
  let isPlain :=
    if bases.isRewritten then bases.written.contains generic
    else bases.entries.contains generic && metaclass ≠ .typedDict
  if isPlain then throw .plainGeneric
  -- Where every base stands for itself, none of them names a variable.
  if !bases.isRewritten then return []
  let used := TypeExpr.parametersOf bases.written
  match bases.written.filterMap genericArguments? with
  | [] => return used
  | [listed] =>
    let missing := used.filter fun v => !listed.contains v
    if missing.isEmpty then return listed
    else throw (.unlistedVariables (missing.map displayVar) (listed.map displayVar))
  | _ => throw .genericTwice

/-! ## Protocols -/

/-- The built-in classes that a protocol may be derived from. -/
def protocolBases : List Builtin :=
  [.object, .generic, .protocol, .abcCallable, .abcAwaitable, .abcIterable, .abcIterator,
   .abcAsyncIterable, .abcHashable, .abcSized, .abcContainer, .abcCollection, .abcReversible,
   .contextManager, .asyncContextManager]

/-- Whether a class is a protocol: it is derived from the class of protocols directly. -/
def isProtocol (c : ClassRef) : Bool :=
  (cat.info c.id).bases.contains (.builtin .protocol)

/-- Check that a protocol is derived from protocols only. -/
def checkProtocol (bases : List ClassRef) : Except BaseFault Unit :=
  if !bases.contains (.builtin .protocol) then .ok ()
  else bases.forM fun b =>
    if protocolBases.any (fun p => b = .builtin p) || cat.isProtocol b then .ok ()
    else .error (.notAProtocol (cat.display b.toExpr))

/-- What a type of its own says of a keyword beside it in the head of a class. -/
def newTypeKeywordText : String :=
  "NewType.__mro_entries__.<locals>.Dummy.__init_subclass__() got an unexpected keyword " ++
    "argument 'total'"

/-- Check what a new class is told by its ancestors; it has the type variables that are returned. -/
def checkAncestors (name qualname home : String) (mro : List ClassRef) (bases : Bases)
    (metaclass : Metaclass) (hasKeyword : Bool) : Except BaseFault (List TypeVar) := do
  for t in bases.entries do
    match t with
    | .newType v =>
      if hasKeyword then throw (BaseFault.value newTypeKeywordText)
      else throw (BaseFault.newType v.name name)
    | _ => pure ()
  if mro.contains (.builtin .typeVar) || mro.contains (.builtin .forwardRef) then throw .special
  if mro.contains (.builtin .annotated) then throw (.notSubclassable (home ++ ".Annotated"))
  if hasKeyword && metaclass ≠ .typedDict && metaclass ≠ .model then throw (.keyword qualname)
  let params ← if mro.contains (.builtin .generic) then paramsOf bases metaclass else pure []
  cat.checkProtocol bases.classes
  return params

end Catalog

end TypeSchema
