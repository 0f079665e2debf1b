import TypeSchema.Evaluation.Check
/-!
# Classes of values

`Catalog.classOf` is the class of a value, and `Catalog.isInstance` and `Catalog.isSubclass` tell
whether a value or a class belongs to a class, to one of several or to a type that stands for one. A
class belongs to its ancestors; to an abstract class it belongs besides if its instances can do what
the abstract class asks for.
-/

namespace TypeSchema

namespace Builtin

/-- The classes whose instances hold items and know how many. -/
def containers : List Builtin :=
  [str, bytes, bytearray, list, tuple, dict, set, frozenset, range, deque, other "dict_keys",
   other "dict_values", other "dict_items", other "mappingproxy", other "memoryview"]

/-- The classes whose instances are used up as they yield their items. -/
def iterators : List Builtin :=
  (["enumerate", "filter", "map", "zip", "reversed", "generator", "list_iterator",
    "tuple_iterator", "set_iterator", "str_ascii_iterator", "dict_keyiterator", "range_iterator",
    "list_reverseiterator"]).map other

/-- The classes whose instances may be called. -/
def callables : List Builtin :=
  [type, builtinFunction, newType, other "function", other "method_descriptor"]

/-- The classes that belong to an abstract class without being derived from it. -/
def implementers : Builtin → List Builtin
  | abcIterable => containers ++ iterators
  | abcSized | abcContainer | abcCollection => containers
  | abcIterator => iterators
  | abcReversible =>
    [list, tuple, str, bytes, bytearray, range, dict, deque, other "dict_keys",
     other "dict_values", other "dict_items", other "mappingproxy", other "memoryview"]
  | abcSequence => [str, bytes, bytearray, list, tuple, range, deque, other "memoryview"]
  | abcMutableSequence => [list, bytearray, deque]
  | abcMapping => [dict, other "mappingproxy"]
  | abcMutableMapping => [dict]
  | abcSet => [set, frozenset, other "dict_keys", other "dict_items"]
  | abcMutableSet => [set]
  | abcByteString => [bytes, bytearray]
  | abcKeysView => [other "dict_keys"]
  | abcItemsView => [other "dict_items"]
  | abcValuesView => [other "dict_values"]
  | abcMappingView => [other "dict_keys", other "dict_items", other "dict_values"]
  | abcCallable => callables
  | abcGenerator => [other "generator"]
  | _ => []

/-- Whether the instances of a built-in class have no hash. -/
def isUnhashable : Builtin → Bool
  | list | dict | set | bytearray | deque | counter | orderedDict | defaultDict | simpleNamespace
  | userList | userDict | chainMap | abcMapping | abcSet | abcMutableMapping | abcMutableSet
  | other "dict_keys" | other "dict_items" => true
  | _ => false

end Builtin

namespace Catalog

variable (cat : Catalog)

/-- The class of a value. -/
def classOf (t : TypeExpr) : TypeExpr :=
  match t with
  | .cls id _ => .builtin (cat.info id).metaclass.asBuiltin
  | .member id _ _ | .object _ id _ => .cls id []
  | .constant .none => .noneType
  | .constant .ellipsis => .builtin .ellipsisType
  | .constant .notImplemented => .builtin .notImplementedType
  | .constant (.bool _) => .builtin .bool
  | .constant (.int _) => .builtin .int
  | .constant (.float _) => .builtin .float
  | .constant (.complex _ _) => .builtin .complex
  | .constant (.decimal _) => .builtin .decimal
  | .constant (.string _) => .builtin .str
  | .constant (.bytes _) => .builtin .bytes
  | .group .tuple _ => .builtin .tuple
  | .group .list _ => .builtin .list
  | .group .set _ => .builtin .set
  | .group .dict _ => .builtin .dict
  | .description _ _ => .builtin .description
  | .initVar _ _ => .builtin .initVar
  | .forwardRef _ _ _ => .builtin .forwardRef
  | .typeVar _ => .builtin .typeVar
  | .newType _ => .builtin .newType
  | .function name =>
    .builtin (if BuiltinName.isSpelledOut name then .other "function" else .builtinFunction)
  | .closure _ => .builtin (.other "function")
  | .method (.cls _ _) _ => .builtin (.other "method_descriptor")
  | .method _ _ => .builtin .builtinFunction
  | .module _ => .builtin .module
  | .union .bars _ => .builtin .unionType
  | .subscript (.direct _) _ | .subscript (.flat _) _ | .unpacked _ => .builtin .genericAlias
  | .form _ => .builtin .specialForm
  | _ => .builtin .typingAlias

/-- Whether the instances of a class have a hash: those of a class that compares them by what they hold
have none, unless they refuse changes. -/
def hasHash (c : ClassRef) : Bool :=
  let decisive := (cat.mro c).findSome? fun d =>
    match d.id with
    | .builtin b => if b.isUnhashable then some false else none
    | .declared _ =>
      let info := cat.info d.id
      if info.dataFields.isSome && !info.isFrozen || info.model.isSome then some false else none
  decisive.getD true

/-- Whether a class is another one or belongs to it. -/
def isBelow (c d : ClassRef) : Bool :=
  (cat.mro c).contains d ||
    match d with
    | ⟨.builtin .abcHashable, []⟩ => cat.hasHash c
    | ⟨.builtin b, []⟩ => b.implementers.any (cat.derives c)
    | _ => false

/-- What is said where membership is asked of something that has no instances. -/
structure MembershipTexts where
  /-- The name of the question. -/
  function : String
  /-- What it asks for. -/
  demand : String

/-- What is said where a value is asked for its class. -/
def MembershipTexts.ofValue : MembershipTexts :=
  ⟨"isinstance", "isinstance() arg 2 must be a type, a tuple of types, or a union"⟩

/-- What is said where a class is asked for its ancestors. -/
def MembershipTexts.ofClass : MembershipTexts :=
  ⟨"issubclass", "issubclass() arg 2 must be a class, a tuple of classes, or a union"⟩

/-- What is said of arguments of which none may be given. -/
def subscriptedCheck : String :=
  "Subscripted generics cannot be used with class and instance checks"

mutual

/-- Whether a class belongs to what a value stands for. -/
def belongs (texts : MembershipTexts) (c : ClassRef) : TypeExpr → Eval Bool
  | .cls (.builtin .typingAny) [] =>
    if texts.function = "isinstance" then
      Eval.refuse (.argumentText "typing.Any cannot be used with isinstance()")
    else return cat.derives c .typingAny
  | .cls id args =>
    if (cat.info id).metaclass = .typedDict then
      Eval.refuse (.argumentText "TypedDict does not support instance and class checks")
    else return cat.isBelow c ⟨id, args⟩
  | .typingName a => return cat.isBelow c (.builtin a.origin)
  | .group .tuple items => belongsToAny texts c items
  | .union _ members => belongsToAny texts c members
  | .form .keywordOnly => Eval.refuse (.argumentText texts.demand)
  | .form f =>
    Eval.refuse (.argumentText (f.display ++ " cannot be used with " ++ texts.function ++ "()"))
  | .subscript (.direct _) _ | .subscript (.flat _) _ | .unpacked _ =>
    Eval.refuse (.argumentText (texts.function ++
      "() argument 2 cannot be a parameterized generic"))
  | .subscript _ _ | .literal _ | .annotated _ _ => Eval.refuse (.argumentText subscriptedCheck)
  | _ => Eval.refuse (.argumentText texts.demand)

/-- Whether a class belongs to what one of some values stands for. -/
def belongsToAny (texts : MembershipTexts) (c : ClassRef) : List TypeExpr → Eval Bool
  | [] => return false
  | t :: ts => do
    if ← belongs texts c t then return true else belongsToAny texts c ts

end

/-- Whether a value is an instance of what another stands for. -/
def isInstance (t owner : TypeExpr) : Eval Bool :=
  match cat.classOf t with
  | .cls id args => cat.belongs .ofValue ⟨id, args⟩ owner
  | _ => return false

/-- Whether a class belongs to what another value stands for. -/
def isSubclass (t owner : TypeExpr) : Eval Bool :=
  match t with
  | .cls id args => cat.belongs .ofClass ⟨id, args⟩ owner
  | _ => Eval.refuse (.argumentText "issubclass() arg 1 must be a class")

end Catalog

end TypeSchema
