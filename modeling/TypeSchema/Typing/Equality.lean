import TypeSchema.Typing.Expr
/-!
# Equality of type expressions

`TypeExpr.same` is the equality that sets, dictionaries and caches see. It is coarser than equality
as data in three ways:

* the members of a union form a set, whichever of its two spellings the union has;
* the values of a `Literal` form a set, where `1` and `True` are different values;
* plain values compare by value, where `1` and `True` are the same, except descriptions, each of
  which equals itself alone.

It keeps apart what is written with a class from what is written with the `typing` name of
that class.

`TypeExpr.equals` is what the operator `==` sees. It knows no more than that brackets have an origin
and arguments, and annotations have the annotated type for both, so that it does not tell a generic
class applied to itself from the annotated class. Sets tell the two apart by their hashes.
-/

namespace TypeSchema.TypeExpr

/-- Whether two values of a `Literal` have the same class, as far as equal values can differ in
it. -/
def sameClass : TypeExpr → TypeExpr → Bool
  | .constant c, .constant d => c.className == d.className
  | _, _ => true

mutual

/-- Equality as a program sees it. -/
def same : TypeExpr → TypeExpr → Bool
  | .cls i xs, .cls j ys => i == j && xs == ys
  | .form f, .form g => f == g
  | .typingName a, .typingName b => a == b
  | .subscript g xs, .subscript h ys => g.asWritten == h.asWritten && sameList xs ys
  | .literal vs, .literal ws => allValuesIn vs ws && ws.all (anySameValue vs)
  | .union _ xs, .union _ ys => allIn xs ys && ys.all (anySame xs)
  | .annotated x m, .annotated y n => same x y && sameList m n
  | .initVar m _, .initVar n _ => m == n
  | .unpacked x, .unpacked y => same x y
  | .forwardRef s m _, .forwardRef t n _ => s == t && m == n
  | .typeVar v, .typeVar w => v == w
  | .newType v, .newType w => v == w
  | .constant c, .constant d => c.same d
  | .group .set xs, .group .set ys => allIn xs ys && ys.all (anySame xs)
  | .group .dict xs, .group .dict ys => allIn xs ys && ys.all (anySame xs)
  | .group g xs, .group h ys => g == h && sameList xs ys
  | .member i a _, .member j b _ => i == j && a == b
  | .description m s, .description n t => m == n && s == t
  | .fieldReader m, .fieldReader n => m == n
  | .function a, .function b => a == b
  | .closure m, .closure n => m == n
  | .method x a, .method y b => same x y && a == b
  | .module a, .module b => a == b
  | .object (some m) _ _, .object (some n) _ _ => m == n
  | .object none i xs, .object none j ys => i == j && sameList xs ys
  | _, _ => false

/-- `same` item by item. -/
def sameList : List TypeExpr → List TypeExpr → Bool
  | [], [] => true
  | x :: xs, y :: ys => same x y && sameList xs ys
  | _, _ => false

/-- Every item of the first list is the same as some item of the second. -/
def allIn : List TypeExpr → List TypeExpr → Bool
  | [], _ => true
  | x :: xs, ys => ys.any (same x) && allIn xs ys

/-- Some item of the list is the same as the given one. -/
def anySame : List TypeExpr → TypeExpr → Bool
  | [], _ => false
  | x :: xs, y => same x y || anySame xs y

/-- Every value of the first list is, with its class, some value of the second. -/
def allValuesIn : List TypeExpr → List TypeExpr → Bool
  | [], _ => true
  | x :: xs, ys => ys.any (fun y => same x y && sameClass x y) && allValuesIn xs ys

/-- Some value of the list is, with its class, the given one. -/
def anySameValue : List TypeExpr → TypeExpr → Bool
  | [], _ => false
  | x :: xs, y => (same x y && sameClass x y) || anySameValue xs y

end

/-- The class that stands before brackets and alone inside them. -/
def selfApplied? : TypeExpr → Option TypeExpr
  | .subscript (.typingName a) [x] => if x = builtin a.origin then some x else none
  | .subscript (.generic id) [x] => if x = .cls id [] then some x else none
  | _ => none

mutual

/-- Equality as the operator `==` sees it. The members of unions and sets and the keys of
dictionaries are compared by their hashes first. -/
def equals : TypeExpr → TypeExpr → Bool
  | .subscript g xs, .subscript h ys => g.asWritten == h.asWritten && equalsList xs ys
  | .annotated x m, .annotated y n => equals x y && equalsList m n
  | .subscript g xs, .annotated y _ => selfApplied? (.subscript g xs) == some y
  | .annotated x _, .subscript h ys => selfApplied? (.subscript h ys) == some x
  | .unpacked x, .unpacked y => equals x y
  | .group .tuple xs, .group .tuple ys => equalsList xs ys
  | .group .list xs, .group .list ys => equalsList xs ys
  | .method x a, .method y b => equals x y && a == b
  | .object none i xs, .object none j ys => i == j && equalsList xs ys
  | x, y => same x y

/-- `equals` item by item. -/
def equalsList : List TypeExpr → List TypeExpr → Bool
  | [], [] => true
  | x :: xs, y :: ys => equals x y && equalsList xs ys
  | _, _ => false

end

end TypeSchema.TypeExpr
