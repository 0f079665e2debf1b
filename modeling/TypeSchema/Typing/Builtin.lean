/-!
# Built-in classes

The classes that every program can name without declaring them. A `Builtin` has a module, a name
and a fixed list of ancestors; what the creation of classes needs to know of it is its
*metaclass*, the class whose *layout* its instances have, and whether classes may be derived from
it at all.
-/

namespace TypeSchema

/-- What creates a class: the class of the class. -/
inductive Metaclass where
  | plain | abstract | model | protocol | any | enumeration | typedDict
  deriving DecidableEq, Repr, Inhabited

namespace Metaclass

/-- The name of a metaclass. -/
def name : Metaclass → String
  | plain => "type" | abstract => "ABCMeta" | model => "ModelMetaclass"
  | protocol => "_ProtocolMeta" | any => "_AnyMeta" | enumeration => "EnumType"
  | typedDict => "_TypedDictMeta"

/-- The module that a metaclass belongs to. -/
def moduleName : Metaclass → String
  | plain => "builtins" | abstract => "abc"
  | model => "pydantic._internal._model_construction"
  | protocol | any | typedDict => "typing" | enumeration => "enum"

/-- Whether the classes of one metaclass may have a base of another. -/
def derives : Metaclass → Metaclass → Bool
  | _, plain => true
  | model, abstract | protocol, abstract => true
  | m, n => m == n

end Metaclass

/-- A built-in class. -/
inductive Builtin where
  | object | type | int | bool | float | complex | str | bytes | bytearray
  | list | tuple | dict | set | frozenset | range | slice | noneType | ellipsisType
  | notImplementedType | builtinFunction | module
  | baseException | exception
  | counter | orderedDict | defaultDict | deque | userList | userDict | userString | chainMap
  | abcAsyncGenerator | abcAsyncIterable | abcAsyncIterator | abcAwaitable | abcByteString
  | abcCallable | abcCollection | abcContainer | abcCoroutine | abcGenerator | abcHashable
  | abcItemsView | abcIterable | abcIterator | abcKeysView | abcMapping | abcMappingView
  | abcMutableMapping | abcMutableSequence | abcMutableSet | abcReversible | abcSequence | abcSet
  | abcSized | abcValuesView
  | contextManager | asyncContextManager | pattern | match'
  | initVar | keywordOnlyType | date | datetime | time | timedelta | timezone | tzinfo
  | decimal | fraction
  | enum | flag | reprEnum | intEnum | intFlag | strEnum
  | ipv4Address | ipv6Address | path | purePath | uuid | simpleNamespace | unionType
  | genericAlias
  | typingAny | generic | protocol | annotated | typeVar | newType | forwardRef | specialForm
  | typingAlias
  | baseModel | description | schemaField
  /-- The class of the classes that a metaclass creates, which is not the one of plain classes. -/
  | creator (m : Metaclass)
  /-- Any other class of the `builtins` module, by its name. -/
  | other (name : String)
  deriving DecidableEq, Repr, Inhabited

/-- A metaclass as a built-in class. -/
def Metaclass.asBuiltin : Metaclass → Builtin
  | plain => .type
  | m => .creator m

namespace Builtin

/-- The module a built-in class says it belongs to. -/
def moduleName : Builtin → String
  | counter | orderedDict | defaultDict | deque | userList | userDict | userString
  | chainMap => "collections"
  | abcAsyncGenerator | abcAsyncIterable | abcAsyncIterator | abcAwaitable | abcByteString
  | abcCallable | abcCollection | abcContainer | abcCoroutine | abcGenerator | abcHashable
  | abcItemsView | abcIterable | abcIterator | abcKeysView | abcMapping | abcMappingView
  | abcMutableMapping | abcMutableSequence | abcMutableSet | abcReversible | abcSequence | abcSet
  | abcSized | abcValuesView => "collections.abc"
  | contextManager | asyncContextManager => "contextlib"
  | pattern | match' => "re"
  | initVar | keywordOnlyType => "dataclasses"
  | date | datetime | time | timedelta | timezone | tzinfo => "datetime"
  | decimal => "decimal"
  | fraction => "fractions"
  | enum | flag | reprEnum | intEnum | intFlag | strEnum => "enum"
  | ipv4Address | ipv6Address => "ipaddress"
  | path | purePath => "pathlib"
  | uuid => "uuid"
  | simpleNamespace | unionType | genericAlias => "types"
  | typingAny | generic | protocol | annotated | typeVar | newType | forwardRef | specialForm
  | typingAlias => "typing"
  | baseModel => "pydantic.main"
  | description | schemaField => "schema_forge.schema.introspection"
  | creator m => m.moduleName
  | _ => "builtins"

/-- The name of a built-in class inside its module. -/
def name : Builtin → String
  | object => "object" | type => "type" | int => "int" | bool => "bool" | float => "float"
  | complex => "complex" | str => "str" | bytes => "bytes" | bytearray => "bytearray"
  | list => "list" | tuple => "tuple" | dict => "dict" | set => "set"
  | frozenset => "frozenset" | range => "range" | slice => "slice" | noneType => "NoneType"
  | ellipsisType => "ellipsis" | notImplementedType => "NotImplementedType"
  | builtinFunction => "builtin_function_or_method" | module => "module"
  | baseException => "BaseException" | exception => "Exception"
  | counter => "Counter" | orderedDict => "OrderedDict" | defaultDict => "defaultdict"
  | deque => "deque" | userList => "UserList" | userDict => "UserDict"
  | userString => "UserString" | chainMap => "ChainMap"
  | abcAsyncGenerator => "AsyncGenerator" | abcAsyncIterable => "AsyncIterable"
  | abcAsyncIterator => "AsyncIterator" | abcAwaitable => "Awaitable"
  | abcByteString => "ByteString"
  | abcCallable => "Callable" | abcCollection => "Collection" | abcContainer => "Container"
  | abcCoroutine => "Coroutine"
  | abcGenerator => "Generator" | abcHashable => "Hashable" | abcItemsView => "ItemsView"
  | abcIterable => "Iterable"
  | abcIterator => "Iterator" | abcKeysView => "KeysView" | abcMapping => "Mapping"
  | abcMappingView => "MappingView" | abcMutableMapping => "MutableMapping"
  | abcMutableSequence => "MutableSequence"
  | abcMutableSet => "MutableSet" | abcReversible => "Reversible" | abcSequence => "Sequence"
  | abcSet => "Set" | abcSized => "Sized" | abcValuesView => "ValuesView"
  | contextManager => "AbstractContextManager"
  | asyncContextManager => "AbstractAsyncContextManager"
  | pattern => "Pattern" | match' => "Match"
  | initVar => "InitVar" | keywordOnlyType => "_KW_ONLY_TYPE"
  | date => "date" | datetime => "datetime" | time => "time"
  | timedelta => "timedelta" | timezone => "timezone" | tzinfo => "tzinfo"
  | decimal => "Decimal" | fraction => "Fraction"
  | enum => "Enum" | flag => "Flag" | reprEnum => "ReprEnum" | intEnum => "IntEnum"
  | intFlag => "IntFlag" | strEnum => "StrEnum"
  | ipv4Address => "IPv4Address" | ipv6Address => "IPv6Address" | path => "Path"
  | purePath => "PurePath" | uuid => "UUID"
  | simpleNamespace => "SimpleNamespace" | unionType => "UnionType"
  | genericAlias => "GenericAlias"
  | typingAny => "Any" | generic => "Generic" | protocol => "Protocol"
  | annotated => "Annotated" | typeVar => "TypeVar" | newType => "NewType"
  | forwardRef => "ForwardRef" | specialForm => "_SpecialForm" | typingAlias => "_GenericAlias"
  | baseModel => "BaseModel" | description => "Description" | schemaField => "SchemaField"
  | creator m => m.name
  | other n => n

/-- The name of a built-in class in messages about its instances. Some mention the module. -/
def shownName : Builtin → String
  | date => "datetime.date" | datetime => "datetime.datetime" | time => "datetime.time"
  | timedelta => "datetime.timedelta" | timezone => "datetime.timezone"
  | tzinfo => "datetime.tzinfo" | decimal => "decimal.Decimal"
  | simpleNamespace => "types.SimpleNamespace" | unionType => "types.UnionType"
  | genericAlias => "types.GenericAlias" | orderedDict => "collections.OrderedDict"
  | defaultDict => "collections.defaultdict" | deque => "collections.deque"
  | pattern => "re.Pattern" | match' => "re.Match"
  | b => b.name

/-- The exceptions that are derived from each exception. -/
def exceptionGroups : List (String × List String) :=
  [("Exception", ["ArithmeticError", "AssertionError", "AttributeError", "BufferError",
    "EOFError", "ImportError", "LookupError", "MemoryError", "NameError", "OSError",
    "ReferenceError", "RuntimeError", "StopAsyncIteration", "StopIteration", "SyntaxError",
    "SystemError", "TypeError", "ValueError", "Warning"]),
   ("BaseException", ["BaseExceptionGroup", "GeneratorExit", "KeyboardInterrupt",
    "SystemExit"]),
   ("OSError", ["BlockingIOError", "ChildProcessError", "ConnectionError", "FileExistsError",
    "FileNotFoundError", "InterruptedError", "IsADirectoryError", "NotADirectoryError",
    "PermissionError", "ProcessLookupError", "TimeoutError"]),
   ("ConnectionError", ["BrokenPipeError", "ConnectionAbortedError",
    "ConnectionRefusedError", "ConnectionResetError"]),
   ("Warning", ["BytesWarning", "DeprecationWarning", "EncodingWarning", "FutureWarning",
    "ImportWarning", "PendingDeprecationWarning", "ResourceWarning", "RuntimeWarning",
    "SyntaxWarning", "UnicodeWarning", "UserWarning"]),
   ("ArithmeticError", ["FloatingPointError", "OverflowError", "ZeroDivisionError"]),
   ("SyntaxError", ["IndentationError"]),
   ("LookupError", ["IndexError", "KeyError"]),
   ("ImportError", ["ModuleNotFoundError"]),
   ("RuntimeError", ["NotImplementedError", "RecursionError"]),
   ("IndentationError", ["TabError"]),
   ("NameError", ["UnboundLocalError"]),
   ("UnicodeError", ["UnicodeDecodeError", "UnicodeEncodeError", "UnicodeTranslateError"]),
   ("ValueError", ["UnicodeError"])]

/-- The names of the exceptions. -/
def exceptionNames : List String := "ExceptionGroup" :: exceptionGroups.flatMap Prod.snd

/-- The exception that an exception is derived from. -/
def exceptionParent? (name : String) : Option String :=
  exceptionGroups.findSome? fun (parent, children) =>
    if children.contains name then some parent else none

/-- The built-in class of an exception by its name. -/
def ofExceptionName : String → Builtin
  | "Exception" => exception
  | "BaseException" => baseException
  | name => other name

/-- The exceptions that an exception is derived from, at most `depth` of them. -/
def exceptionAncestors : (depth : Nat) → String → List Builtin
  | 0, _ => []
  | depth + 1, name =>
    match exceptionParent? name with
    | none => if name = "Exception" then [baseException] else []
    | some parent => ofExceptionName parent :: exceptionAncestors depth parent

/-- The ancestors of a built-in class in search order, without the class itself. -/
def ancestors : Builtin → List Builtin
  | object => []
  | bool => [int, object]
  | exception => [baseException, object]
  | counter | orderedDict | defaultDict => [dict, object]
  | userList =>
    [abcMutableSequence, abcSequence, abcReversible, abcCollection, abcSized, abcIterable,
     abcContainer, object]
  | userDict | chainMap =>
    [abcMutableMapping, abcMapping, abcCollection, abcSized, abcIterable, abcContainer, object]
  | abcCollection => [abcSized, abcIterable, abcContainer, object]
  | abcAsyncGenerator => [abcAsyncIterator, abcAsyncIterable, object]
  | abcAsyncIterator => [abcAsyncIterable, object]
  | abcCoroutine => [abcAwaitable, object]
  | abcGenerator => [abcIterator, abcIterable, object]
  | abcIterator | abcReversible => [abcIterable, object]
  | abcKeysView | abcItemsView =>
    [abcMappingView, abcSet, abcCollection, abcSized, abcIterable, abcContainer, object]
  | abcValuesView => [abcMappingView, abcCollection, abcSized, abcIterable, abcContainer, object]
  | abcMappingView => [abcSized, object]
  | abcMapping | abcSet => [abcCollection, abcSized, abcIterable, abcContainer, object]
  | abcMutableMapping =>
    [abcMapping, abcCollection, abcSized, abcIterable, abcContainer, object]
  | abcMutableSet => [abcSet, abcCollection, abcSized, abcIterable, abcContainer, object]
  | abcSequence =>
    [abcReversible, abcCollection, abcSized, abcIterable, abcContainer, object]
  | abcMutableSequence | abcByteString | userString =>
    [abcSequence, abcReversible, abcCollection, abcSized, abcIterable, abcContainer, object]
  | datetime => [date, object]
  | timezone => [tzinfo, object]
  | path => [purePath, object]
  | flag | reprEnum => [enum, object]
  | intEnum => [int, reprEnum, enum, object]
  | strEnum => [str, reprEnum, enum, object]
  | intFlag => [int, reprEnum, flag, enum, object]
  | protocol => [generic, object]
  | creator .model | creator .protocol => [creator .abstract, type, object]
  | creator _ => [type, object]
  | other "ExceptionGroup" => [other "BaseExceptionGroup", exception, baseException, object]
  | other name => exceptionAncestors 8 name ++ [object]
  | _ => [object]

/-- The classes that a built-in class was derived from directly. -/
def bases : Builtin → List Builtin
  | intEnum => [int, reprEnum]
  | strEnum => [str, reprEnum]
  | intFlag => [int, reprEnum, flag]
  | abcCollection => [abcSized, abcIterable, abcContainer]
  | abcSequence => [abcReversible, abcCollection]
  | abcKeysView | abcItemsView => [abcMappingView, abcSet]
  | abcValuesView => [abcMappingView, abcCollection]
  | other "ExceptionGroup" => [other "BaseExceptionGroup", exception]
  | b => b.ancestors.take 1

/-- What created a built-in class. -/
def metaclass : Builtin → Metaclass
  | userList | userDict | userString | chainMap | fraction | contextManager
  | asyncContextManager => .abstract
  | enum | flag | reprEnum | intEnum | intFlag | strEnum => .enumeration
  | typingAny => .any
  | protocol => .protocol
  | baseModel => .model
  | b => if b.moduleName = "collections.abc" then .abstract else .plain

/-- Whether classes may be derived from a built-in class. -/
def isFinal : Builtin → Bool
  | bool | range | slice | noneType | ellipsisType | notImplementedType | builtinFunction
  | unionType | timezone | pattern | match' | other "memoryview" => true
  | _ => false

/-- The exceptions that have data members of their own. -/
def exceptionLayouts : List String :=
  ["AttributeError", "BaseExceptionGroup", "ImportError", "NameError", "OSError",
   "StopIteration", "SyntaxError", "SystemExit", "UnicodeDecodeError", "UnicodeEncodeError",
   "UnicodeTranslateError"]

/-- The class whose layout the instances of a built-in class have: that class, or the nearest
ancestor, that adds data members. -/
def layout : Builtin → Builtin
  | counter => dict
  | strEnum => str
  | path => purePath
  | abcKeysView | abcItemsView | abcValuesView => abcMappingView
  | exception => baseException
  | object | noneType | ellipsisType | tzinfo | userList | userDict | userString | chainMap
  | contextManager | asyncContextManager | enum | flag | reprEnum | typingAny | generic
  | protocol | annotated | typeVar | newType | description | schemaField => object
  | other name =>
    if exceptionNames.contains name then
      if exceptionLayouts.contains name then other name
      else
        ((exceptionAncestors 8 name).find? fun
          | other parent => exceptionLayouts.contains parent
          | _ => false).getD baseException
    else other name
  | b => if b.moduleName = "collections.abc" ∧ b ≠ abcMappingView then object else b

/-- Whether instances of a built-in class differ in size and hold nothing besides their contents. A
class derived from it, whose instances hold attributes, has a layout of its own. -/
def isVariable : Builtin → Bool
  | int | bool | tuple | bytes => true
  | _ => false

/-- Whether a built-in class makes its instances, or fills them, by itself. -/
def makesInstances : Builtin → Bool
  | type | int | bool | float | complex | str | bytes | bytearray | list | tuple | dict | set
  | frozenset | range | slice | noneType | baseException | exception | counter | orderedDict
  | defaultDict | deque | userList | userDict | userString | chainMap | initVar | date | datetime
  | time | timedelta | timezone | tzinfo | decimal | fraction | ipv4Address | ipv6Address | path
  | purePath | uuid | simpleNamespace | genericAlias | typingAny | annotated | typeVar | newType
  | forwardRef | module | description | schemaField => true
  | other name => name ≠ "ExceptionGroup"
  | _ => false

/-- Whether the contents of the instances of a built-in class may change. -/
def isChanging : Builtin → Bool
  | list | dict | set | bytearray | deque | counter | orderedDict | defaultDict
  | simpleNamespace | other "mappingproxy" | other "dict_keys" | other "dict_items" => true
  | _ => false

/-- The built-in classes whose arguments are kept as they are written. -/
def keepsArguments : Builtin → Bool
  | list | tuple | dict | set | frozenset | type | counter | orderedDict | defaultDict | deque
  | userList | userDict | userString | chainMap | contextManager | asyncContextManager | pattern
  | match' => true
  | abcHashable | abcSized => false
  | other "enumerate" | other "BaseExceptionGroup" => true
  | b => b.moduleName = "collections.abc"

end Builtin

end TypeSchema
