import TypeSchema.Expression.Basic
import TypeSchema.Typing.Alias
/-!
# Type expressions

A `TypeExpr` is what a written expression means once its names are looked up. Most of them are
types; the others are plain values, which may stand where a type is wanted and are refused only
when a schema is made of them.

* Classes are known by identity (`ClassId`), never by name, since two classes may have the same
  name. A generic data model at arguments is a class of its own.
* Generic arguments written on a built-in class are kept as they were written, so `None` and
  quoted names among them stay plain values. Arguments written on a name of the `typing` module
  are converted first: `None` becomes its class and a quoted name becomes a `forwardRef`. The
  arguments of a callable are those of its parameters, and then that of its result.
* `union` and `literal` hold what is left after flattening and removal of repetitions (see
  `TypeSchema.Typing.Union`).

Equality as data is decidable (`TypeExpr.beq_iff`). The equality that programs see, under
which the members of a union form a set, is `TypeExpr.same` in
`TypeSchema.Typing.Equality`.
-/

namespace TypeSchema

/-- A class statement: a built-in class, or the `index`-th class that was declared. -/
inductive ClassId where
  | builtin (b : Builtin)
  | declared (index : Nat)
  deriving DecidableEq, Repr, Inhabited

/-- A type variable, told apart from others of its name by a serial number. -/
structure TypeVar where
  serial : Nat
  name : String
  /-- The module it was declared in. -/
  module : String
  deriving DecidableEq, Repr, Inhabited

/-- Which of the two spellings a union has: `Union[A, B]` or `A | B`. -/
inductive UnionStyle where
  | named
  | bars
  deriving DecidableEq, Repr, Inhabited

/-- What stands before the brackets of a subscription. -/
inductive Head where
  /-- A class whose arguments are kept as written. -/
  | direct (id : ClassId)
  /-- A class whose arguments were replaced one by one; those of a callable stand in one row. -/
  | flat (id : ClassId)
  /-- A generic name of the `typing` module. -/
  | typingName (a : Alias)
  /-- A declared generic class. -/
  | generic (id : ClassId)
  /-- A special form such as `ClassVar`. -/
  | form (f : SpecialForm)
  deriving DecidableEq, Repr, Inhabited

/-- The head that was written, where the arguments were replaced later. -/
def Head.asWritten : Head → Head
  | flat id => direct id
  | h => h

/-- What an expression means. -/
inductive TypeExpr where
  /-- A class; `args` is not empty exactly for a generic data model at these arguments,
  which is a class of its own. -/
  | cls (id : ClassId) (args : List TypeExpr)
  | form (f : SpecialForm)
  | typingName (a : Alias)
  | subscript (head : Head) (args : List TypeExpr)
  | literal (values : List TypeExpr)
  | union (style : UnionStyle) (members : List TypeExpr)
  | annotated (inner : TypeExpr) (metadata : List TypeExpr)
  /-- An argument of an initialiser. Every one is an object of its own. -/
  | initVar (serial : Nat) (inner : TypeExpr)
  /-- The arguments of a generic class, unpacked by a star. -/
  | unpacked (inner : TypeExpr)
  /-- A quoted name, the module in which it is looked up if that is fixed, and whether it stands where
  a class declares its attributes. -/
  | forwardRef (text : String) (module : Option String) (declares : Bool)
  | typeVar (v : TypeVar)
  /-- A declared type of its own that is no class. -/
  | newType (v : TypeVar)
  | constant (c : Constant)
  /-- A tuple, a list, a set, or a dictionary as its entries. -/
  | group (grouping : Grouping) (items : List TypeExpr)
  /-- A member of an enumeration. -/
  | member (id : ClassId) (name : String) (value : TypeExpr)
  /-- A described text. Every one that is written is an object of its own. -/
  | description (serial : Nat) (text : String)
  /-- What reads a field of a named tuple by its index. -/
  | fieldReader (index : Nat)
  /-- A function of a module, or one that is in scope everywhere. -/
  | function (name : String)
  /-- A function without a name, told apart from others by a number. -/
  | closure (serial : Nat)
  /-- A method of a value, or of the instances of a class. -/
  | method (owner : TypeExpr) (name : String)
  | module (name : String)
  /-- An instance of a class, by the values of its fields. One that equals itself alone also has a
  number of its own. -/
  | object (serial : Option Nat) (id : ClassId) (values : List TypeExpr)
  deriving Inhabited, Repr

namespace TypeExpr

/-- A built-in class as a type expression. -/
def builtin (b : Builtin) : TypeExpr := .cls (.builtin b) []

/-- The class of `None`. -/
def noneType : TypeExpr := builtin .noneType

mutual

/-- Equality as data. -/
def beq : TypeExpr → TypeExpr → Bool
  | .cls i xs, .cls j ys => i == j && beqList xs ys
  | .form f, .form g => f == g
  | .typingName a, .typingName b => a == b
  | .subscript g xs, .subscript h ys => g == h && beqList xs ys
  | .literal vs, .literal ws => beqList vs ws
  | .union s xs, .union t ys => s == t && beqList xs ys
  | .annotated x m, .annotated y n => beq x y && beqList m n
  | .initVar m x, .initVar n y => m == n && beq x y
  | .unpacked x, .unpacked y => beq x y
  | .forwardRef s m d, .forwardRef t n e => s == t && m == n && d == e
  | .typeVar v, .typeVar w => v == w
  | .newType v, .newType w => v == w
  | .constant c, .constant d => c == d
  | .group g xs, .group h ys => g == h && beqList xs ys
  | .member i a x, .member j b y => i == j && a == b && beq x y
  | .description m s, .description n t => m == n && s == t
  | .fieldReader m, .fieldReader n => m == n
  | .function a, .function b => a == b
  | .closure m, .closure n => m == n
  | .method x a, .method y b => beq x y && a == b
  | .module a, .module b => a == b
  | .object m i xs, .object n j ys => m == n && i == j && beqList xs ys
  | _, _ => false

/-- Equality as data of two lists. -/
def beqList : List TypeExpr → List TypeExpr → Bool
  | [], [] => true
  | x :: xs, y :: ys => beq x y && beqList xs ys
  | _, _ => false

end

mutual

theorem beq_iff (x y : TypeExpr) : beq x y = true ↔ x = y := by
  cases x <;> cases y <;> simp [beq, beq_iff, beqList_iff, and_assoc]

theorem beqList_iff (xs ys : List TypeExpr) : beqList xs ys = true ↔ xs = ys := by
  cases xs with
  | nil => cases ys <;> simp [beqList]
  | cons x xs => cases ys <;> simp [beqList, beq_iff, beqList_iff]

end

instance : DecidableEq TypeExpr := fun x y =>
  decidable_of_iff _ (beq_iff x y)

end TypeExpr

end TypeSchema
