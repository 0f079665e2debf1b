import TypeSchema.Typing.Builtin
/-!
# Names of the type language

* An `Alias` is a generic name of the `typing` module such as `typing.List`; at arguments or not it
  stands for a class, its *origin*.
* A `SpecialForm` is a name of the `typing` module that stands for no class, such as
  `typing.Union`.
-/

namespace TypeSchema

/-- A generic name of the `typing` module that stands for a class. -/
inductive Alias where
  | list | set | frozenSet | deque | dict | defaultDict | tuple | type
  | sequence | mutableSequence | abstractSet | mutableSet | collection | iterable
  | iterator | container | hashable | mapping | callable
  | asyncContextManager | asyncGenerator | asyncIterable | asyncIterator | awaitable | byteString
  | chainMap | contextManager | coroutine | counter | generator | itemsView | keysView
  | mappingView | match' | mutableMapping | orderedDict | pattern | reversible | sized
  | valuesView
  deriving DecidableEq, Repr, Inhabited

namespace Alias

/-- The name of an alias inside `typing`. -/
def name : Alias → String
  | list => "List" | set => "Set" | frozenSet => "FrozenSet" | deque => "Deque"
  | dict => "Dict" | defaultDict => "DefaultDict" | tuple => "Tuple" | type => "Type"
  | sequence => "Sequence" | mutableSequence => "MutableSequence"
  | abstractSet => "AbstractSet" | mutableSet => "MutableSet" | collection => "Collection"
  | iterable => "Iterable" | iterator => "Iterator" | container => "Container"
  | hashable => "Hashable" | mapping => "Mapping" | callable => "Callable"
  | asyncContextManager => "AsyncContextManager" | asyncGenerator => "AsyncGenerator"
  | asyncIterable => "AsyncIterable" | asyncIterator => "AsyncIterator"
  | awaitable => "Awaitable" | byteString => "ByteString" | chainMap => "ChainMap"
  | contextManager => "ContextManager" | coroutine => "Coroutine" | counter => "Counter"
  | generator => "Generator" | itemsView => "ItemsView" | keysView => "KeysView"
  | mappingView => "MappingView" | match' => "Match" | mutableMapping => "MutableMapping"
  | orderedDict => "OrderedDict" | pattern => "Pattern" | reversible => "Reversible"
  | sized => "Sized" | valuesView => "ValuesView"

/-- The class an alias stands for. -/
def origin : Alias → Builtin
  | list => .list | set => .set | frozenSet => .frozenset | deque => .deque
  | dict => .dict | defaultDict => .defaultDict | tuple => .tuple | type => .type
  | sequence => .abcSequence | mutableSequence => .abcMutableSequence
  | abstractSet => .abcSet | mutableSet => .abcMutableSet | collection => .abcCollection
  | iterable => .abcIterable | iterator => .abcIterator | container => .abcContainer
  | hashable => .abcHashable | mapping => .abcMapping | callable => .abcCallable
  | asyncContextManager => .asyncContextManager | asyncGenerator => .abcAsyncGenerator
  | asyncIterable => .abcAsyncIterable | asyncIterator => .abcAsyncIterator
  | awaitable => .abcAwaitable | byteString => .abcByteString | chainMap => .chainMap
  | contextManager => .contextManager | coroutine => .abcCoroutine | counter => .counter
  | generator => .abcGenerator | itemsView => .abcItemsView | keysView => .abcKeysView
  | mappingView => .abcMappingView | match' => .match' | mutableMapping => .abcMutableMapping
  | orderedDict => .orderedDict | pattern => .pattern | reversible => .abcReversible
  | sized => .abcSized | valuesView => .abcValuesView

/-- How many arguments an alias takes; those that take any number have no count. -/
def arity? : Alias → Option Nat
  | tuple | callable => none
  | hashable | sized | byteString => some 0
  | dict | defaultDict | mapping | mutableMapping | orderedDict | chainMap | itemsView
  | asyncGenerator => some 2
  | coroutine | generator => some 3
  | _ => some 1

/-- Whether an alias refuses to make instances of its class. -/
def isAbstract : Alias → Bool
  | list | set | frozenSet | dict | tuple | type => true
  | _ => false

/-- Every alias. -/
def all : List Alias :=
  [list, set, frozenSet, deque, dict, defaultDict, tuple, type, sequence, mutableSequence,
   abstractSet, mutableSet, collection, iterable, iterator, container, hashable, mapping,
   callable, asyncContextManager, asyncGenerator, asyncIterable, asyncIterator, awaitable,
   byteString, chainMap, contextManager, coroutine, counter, generator, itemsView, keysView,
   mappingView, match', mutableMapping, orderedDict, pattern, reversible, sized, valuesView]

theorem mem_all (a : Alias) : a ∈ all := by cases a <;> decide

end Alias

/-- A special name of the type language that is no class. -/
inductive SpecialForm where
  | classVar | final | literal | literalString | never | noReturn | notRequired | optional
  | required | selfType | union | concatenate | typeAlias | typeGuard | unpack
  /-- The marker after which the fields of a dataclass are passed by name. -/
  | keywordOnly
  deriving DecidableEq, Repr, Inhabited

namespace SpecialForm

/-- The name of a special form inside its module. -/
def name : SpecialForm → String
  | classVar => "ClassVar" | final => "Final" | literal => "Literal"
  | literalString => "LiteralString" | never => "Never" | noReturn => "NoReturn"
  | notRequired => "NotRequired" | optional => "Optional" | required => "Required"
  | selfType => "Self" | union => "Union" | concatenate => "Concatenate"
  | typeAlias => "TypeAlias" | typeGuard => "TypeGuard" | unpack => "Unpack"
  | keywordOnly => "KW_ONLY"

/-- The module of a special form. -/
def moduleName : SpecialForm → String
  | keywordOnly => "dataclasses"
  | _ => "typing"

/-- The text of a special form. -/
def display (f : SpecialForm) : String := f.moduleName ++ "." ++ f.name

/-- Whether a special form is a type without arguments. -/
def isType : SpecialForm → Bool
  | literalString | never | noReturn | selfType | typeAlias => true
  | _ => false

/-- Every special form. -/
def all : List SpecialForm :=
  [classVar, final, literal, literalString, never, noReturn, notRequired, optional, required,
   selfType, union, concatenate, typeAlias, typeGuard, unpack, keywordOnly]

theorem mem_all (f : SpecialForm) : f ∈ all := by cases f <;> decide

end SpecialForm

end TypeSchema
