import TypeSchema.Typing.Alias
/-!
# What can be named without a declaration

`plainNames` lists the names that are in scope everywhere, `modules` the modules that a program
can name, and `moduleMembers` what they hold.
-/

namespace TypeSchema

/-- What a built-in name refers to. -/
inductive BuiltinName where
  | cls (b : Builtin)
  | typingName (a : Alias)
  | form (f : SpecialForm)
  | function (name : String)
  | ellipsis
  | notImplemented
  deriving DecidableEq, Repr

namespace BuiltinName

/-- The classes in scope everywhere that the program treats by name. -/
def plainClasses : List Builtin :=
  [.object, .type, .int, .bool, .float, .complex, .str, .bytes, .bytearray, .list, .tuple,
   .dict, .set, .frozenset, .range, .slice, .baseException, .exception]

/-- The names of the remaining classes that are in scope everywhere, but for exceptions. -/
def otherPlainClasses : List String :=
  ["classmethod", "enumerate", "filter", "map", "memoryview", "property", "reversed",
   "staticmethod", "super", "zip"]

/-- The functions in scope everywhere. -/
def functions : List String :=
  ["abs", "aiter", "all", "anext", "any", "ascii", "bin", "breakpoint", "callable", "chr",
   "compile", "delattr", "dir", "divmod", "eval", "exec", "format", "getattr", "globals",
   "hasattr", "hash", "hex", "id", "input", "isinstance", "issubclass", "iter", "len", "locals",
   "max", "min", "next", "oct", "open", "ord", "pow", "print", "repr", "round", "setattr",
   "sorted", "sum", "vars", "__build_class__", "__import__"]

/-- The names in scope everywhere. -/
def plainNames : List (String × BuiltinName) :=
  plainClasses.map (fun b => (b.name, .cls b)) ++
    [("Ellipsis", .ellipsis), ("NotImplemented", .notImplemented),
     ("IOError", .cls (.other "OSError")), ("EnvironmentError", .cls (.other "OSError"))] ++
    (Builtin.exceptionNames ++ otherPlainClasses).map (fun n => (n, .cls (.other n))) ++
    functions.map fun n => (n, .function n)

/-- The modules that a program can name, each with its last name. -/
def modules : List String :=
  ["collections", "collections.abc", "dataclasses", "datetime", "decimal", "enum", "fractions",
   "ipaddress", "pathlib", "pydantic", "types", "typing", "uuid"]

/-- The classes of modules, by the module and the name under which they are reached. -/
def moduleClasses : List (String × String × Builtin) :=
  ([.counter, .orderedDict, .defaultDict, .deque, .userList, .userDict, .userString, .chainMap,
    .abcAsyncGenerator, .abcAsyncIterable, .abcAsyncIterator, .abcAwaitable, .abcByteString,
    .abcCallable, .abcCollection, .abcContainer, .abcCoroutine, .abcGenerator, .abcHashable,
    .abcItemsView, .abcIterable, .abcIterator, .abcKeysView, .abcMapping, .abcMappingView,
    .abcMutableMapping, .abcMutableSequence, .abcMutableSet, .abcReversible, .abcSequence,
    .abcSet, .abcSized, .abcValuesView, .initVar, .date, .datetime, .time, .timedelta,
    .timezone, .tzinfo, .decimal, .fraction, .enum, .flag, .reprEnum, .intEnum, .intFlag,
    .strEnum, .ipv4Address, .ipv6Address, .path, .purePath, .uuid, .simpleNamespace, .unionType,
    .genericAlias, .typingAny, .generic, .protocol, .annotated, .typeVar, .newType,
    .forwardRef] : List Builtin).map (fun b => (b.moduleName, b.name, b)) ++
    [("pydantic", "BaseModel", .baseModel), ("types", "NoneType", .noneType),
     ("types", "EllipsisType", .ellipsisType), ("types", "ModuleType", .module),
     ("types", "BuiltinFunctionType", .builtinFunction), ("typing", "Text", .str)]

/-- The functions of modules that declare something. -/
def moduleFunctions : List (String × String) :=
  [("typing", "NamedTuple"), ("typing", "TypedDict"), ("dataclasses", "dataclass"),
   ("dataclasses", "field"), ("pydantic", "Field"), ("typing", "cast"), ("typing", "get_args"),
   ("typing", "get_origin"), ("typing", "get_type_hints"), ("typing", "is_typeddict"),
   ("typing", "assert_type"), ("typing", "overload"), ("typing", "final"),
   ("typing", "no_type_check"), ("typing", "runtime_checkable"), ("dataclasses", "fields"),
   ("dataclasses", "is_dataclass"), ("dataclasses", "asdict"), ("dataclasses", "astuple"),
   ("dataclasses", "replace"), ("dataclasses", "make_dataclass"), ("enum", "unique")]

/-- The functions that the program itself defines. -/
def programFunctions : List String := ["description", "schema_fields", "register_schema_fields"]

/-- Whether a function is one that some module spells out, and no built-in one. -/
def isSpelledOut (function : String) : Bool :=
  programFunctions.contains function || moduleFunctions.any fun (_, n) => n = function

/-- What modules hold. -/
def moduleMembers : List (String × String × BuiltinName) :=
  moduleClasses.map (fun (m, n, b) => (m, n, .cls b)) ++
    moduleFunctions.map (fun (m, n) => (m, n, .function n)) ++
    Alias.all.map (fun a => ("typing", a.name, .typingName a)) ++
    SpecialForm.all.map fun f => (f.moduleName, f.name, .form f)

/-- What a name refers to in a module. -/
def inModule? (module name : String) : Option BuiltinName :=
  moduleMembers.findSome? fun (m, n, b) => if m = module ∧ n = name then some b else none

/-- What the program itself defines and is in scope in every module. -/
def programNames : List (String × BuiltinName) :=
  [("Description", .cls .description), ("SchemaField", .cls .schemaField)] ++
    programFunctions.map fun n => (n, .function n)

/-- The module that a name of a module holds, such as the one inside `collections`. -/
def submodule? (module name : String) : Option String :=
  let path := module ++ "." ++ name
  if modules.contains path then some path else none

end BuiltinName

end TypeSchema
