import TypeSchema.Expression.Basic
import TypeSchema.Typing.Builtin
/-!
# Methods of built-in classes

Which methods the built-in classes have for plain values and groupings of them, and how many arguments each takes.
-/

namespace TypeSchema

/-- A method and the number of arguments that it takes besides its value. -/
structure MethodShape where
  name : String
  least : Nat
  most : Nat
  /-- Whether it belongs to the class and not to its instances. -/
  isOfClass : Bool
  deriving DecidableEq, Repr, Inhabited

namespace Builtin

/-- Methods of instances that take the same number of arguments. -/
def shapes (least most : Nat) (names : List String) : List MethodShape :=
  names.map fun name => ⟨name, least, most, false⟩

/-- The methods of texts. -/
def textMethods : List MethodShape :=
  shapes 0 0
    ["upper", "lower", "casefold", "title", "capitalize", "swapcase", "isdigit", "isalpha",
     "isalnum", "isupper", "islower", "isspace", "isidentifier", "isdecimal", "isnumeric",
     "isprintable", "isascii", "istitle"] ++
    shapes 0 1 ["strip", "lstrip", "rstrip", "splitlines", "expandtabs"] ++
    shapes 0 2 ["split", "rsplit", "encode"] ++
    shapes 1 1 ["join", "removeprefix", "removesuffix", "partition", "rpartition", "zfill",
      "translate", "format_map"] ++
    shapes 1 2 ["ljust", "rjust", "center"] ++
    shapes 1 3 ["find", "rfind", "index", "rindex", "count", "startswith", "endswith"] ++
    shapes 2 3 ["replace"] ++ shapes 0 255 ["format"]

/-- The methods of bytes. -/
def byteMethods : List MethodShape :=
  shapes 0 2 ["decode", "hex"] ++ shapes 1 1 ["join"] ++ shapes 0 0 ["upper", "lower"]

/-- The methods that sets of both kinds have. -/
def setMethods : List MethodShape :=
  shapes 0 255 ["union", "intersection", "difference"] ++ shapes 0 0 ["copy"] ++
    shapes 1 1 ["symmetric_difference", "issubset", "issuperset", "isdisjoint"]

/-- The methods that containers of items have under names that stand for operations. -/
def containerMethods : List MethodShape :=
  shapes 1 1 ["__getitem__", "__contains__"] ++ shapes 0 0 ["__len__", "__iter__"]

/-- The operators that a name stands for. -/
def operators : List (String × BinaryOperator) :=
  [("__add__", .add), ("__sub__", .subtract), ("__mul__", .multiply), ("__truediv__", .divide),
   ("__floordiv__", .floorDivide), ("__mod__", .remainder), ("__pow__", .power),
   ("__and__", .bitAnd), ("__or__", .bitOr), ("__xor__", .bitXor), ("__lshift__", .shiftLeft),
   ("__rshift__", .shiftRight)]

/-- The operators that values of a built-in class have a method for. -/
def operatorMethods : Builtin → List MethodShape
  | int => shapes 1 1 (operators.map Prod.fst)
  | float => shapes 1 1 ((operators.take 7).map Prod.fst)
  | str | bytes | list | tuple => shapes 1 1 ["__add__", "__mul__"]
  | set | frozenset => shapes 1 1 ["__sub__", "__and__", "__or__", "__xor__"]
  | dict => shapes 1 1 ["__or__"]
  | _ => []

/-- The methods of a built-in class that its ancestors do not have. -/
def methods : Builtin → List MethodShape
  | str => textMethods ++ containerMethods
  | bytes => byteMethods ++ containerMethods
  | list =>
    shapes 1 3 ["index"] ++ shapes 1 1 ["count", "append", "extend", "remove"] ++
      shapes 0 0 ["copy", "clear", "reverse", "sort"] ++ shapes 0 1 ["pop"] ++
      shapes 2 2 ["insert"] ++ containerMethods
  | tuple => shapes 1 3 ["index"] ++ shapes 1 1 ["count"] ++ containerMethods
  | dict =>
    shapes 1 2 ["get", "pop", "setdefault"] ++
      shapes 0 0 ["keys", "values", "items", "copy", "clear", "popitem"] ++
      shapes 0 1 ["update"] ++ [⟨"fromkeys", 1, 2, true⟩] ++ containerMethods
  | other "mappingproxy" =>
    shapes 1 2 ["get"] ++ shapes 0 0 ["keys", "values", "items", "copy"] ++ containerMethods
  | set =>
    setMethods ++ shapes 1 1 ["add", "discard", "remove"] ++ shapes 0 0 ["pop", "clear"] ++
      containerMethods
  | frozenset => setMethods ++ containerMethods
  | int =>
    shapes 0 0 ["bit_length", "bit_count", "conjugate", "as_integer_ratio", "__index__"]
  | float => shapes 0 0 ["is_integer", "conjugate", "as_integer_ratio", "hex"]
  | complex => shapes 0 0 ["conjugate"]
  | range => shapes 1 1 ["index", "count"] ++ containerMethods
  | type => shapes 0 0 ["mro", "__subclasses__"] ++ shapes 1 1 ["__or__"]
  | _ => []

/-- The methods of all objects, which some classes have in their own way. -/
def objectMethods : List MethodShape :=
  shapes 0 0 ["__repr__", "__str__", "__hash__"] ++
    shapes 1 1 ["__eq__", "__ne__", "__lt__", "__le__", "__gt__", "__ge__", "__getattribute__",
      "__delattr__"] ++
    shapes 2 2 ["__setattr__"] ++ shapes 0 255 ["__init__"]

/-- Whether a method stands for a thing that every object does in some way. -/
def isSlot (name : String) : Bool := objectMethods.any (·.name = name)

/-- The method of a name that a built-in class has. -/
def method? (b : Builtin) (name : String) : Option MethodShape :=
  (b.methods ++ b.operatorMethods).find? (·.name = name)

end Builtin

end TypeSchema
