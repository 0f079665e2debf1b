import TypeSchema.Catalog.Display
import TypeSchema.Digest.NameId
import TypeSchema.Typing.StandardLibrary
/-!
# Classification of types

What a type expression stands for in a schema.

* `TypeExpr.unwrap` takes off `Annotated` and `Optional`, in whatever order they are nested,
  and remembers the first description it meets.
* `Catalog.kindOf` gives a class the first `TypeKind` that fits it.
* `elementOfTuple?` and `elementOfCollection?` find the one type that the items of an array
  have.
-/

namespace TypeSchema

/-- The kinds of classes that schemas tell apart. -/
inductive TypeKind where
  | string | integer | number | boolean | enumeration | fixedArray | collection | object
  deriving DecidableEq, Repr, Inhabited

/-- Why a type expression has nothing inside its wrappers. -/
inductive UnwrapError where
  /-- A union of several types. -/
  | severalAlternatives (t : TypeExpr)
  /-- A type that every value has. -/
  | unconstrained (t : TypeExpr)
  deriving DecidableEq, Repr, Inhabited

namespace TypeExpr

/-- The text of the first description among attached metadata. -/
def firstDescription? (metadata : List TypeExpr) : Option String :=
  metadata.findSome? fun
    | .description _ text => some text
    | _ => none

mutual

/-- What is inside the wrappers of a type expression, and the first description among their
metadata, read from the outside in and from left to right. -/
def unwrap (t : TypeExpr) : Except UnwrapError (TypeExpr × Option String) :=
  match t with
  | .annotated inner metadata => do
    let (core, text) ← unwrap inner
    return (core, firstDescription? metadata <|> text)
  | .union style members =>
    match members.countP (· ≠ noneType) with
    | 1 => unwrapSole members
    | _ => .error (.severalAlternatives (.union style members))
  | t =>
    if t = builtin .typingAny ∨ t = builtin .object then .error (.unconstrained t)
    else .ok (t, none)

/-- What is inside the wrappers of the first member of a union that is not `None`. -/
def unwrapSole : List TypeExpr → Except UnwrapError (TypeExpr × Option String)
  | [] => .error (.severalAlternatives (.union .named []))
  | t :: ts => if t = noneType then unwrapSole ts else unwrap t

end

/-- The class behind a type expression that may have arguments. -/
def rawType (t : TypeExpr) : TypeExpr := t.origin?.getD t

/-- The class behind a type expression, if there is one. -/
def rawClass? (t : TypeExpr) : Option ClassRef := t.rawType.asClass?

/-- An element type that was found; the plain value `None` counts as none. -/
def asElement? : TypeExpr → Option TypeExpr
  | .constant .none => none
  | t => some t

/-- The one type of the items of a tuple: before three dots, or repeated throughout. -/
def elementOfTuple? (t : TypeExpr) : Option TypeExpr :=
  match t.arguments with
  | [x, .constant .ellipsis] => x.asElement?
  | [] => none
  | x :: xs => if xs.all (equals x) then x.asElement? else none

/-- The one type argument of a collection. -/
def elementOfCollection? (t : TypeExpr) : Option TypeExpr :=
  match t.arguments with
  | [x] => x.asElement?
  | _ => none

end TypeExpr

namespace Catalog

variable (cat : Catalog)

/-- Whether a class is one of some built-in classes or derived from one. -/
def derivesAny (c : ClassRef) (bs : List Builtin) : Bool := bs.any (cat.derives c)

/-- The classes whose values are written as texts. -/
def stringClasses : List Builtin := [.str, .uuid, .date, .datetime, .time]

/-- The classes whose values are written as numbers that need not be whole. -/
def numberClasses : List Builtin := [.float, .decimal]

/-- The classes whose derived classes are collections too. -/
def concreteCollections : List Builtin := [.list, .set, .frozenset, .deque]

/-- The classes that are collections. -/
def collectionClasses : List Builtin :=
  concreteCollections ++
    [.abcSequence, .abcMutableSequence, .abcSet, .abcMutableSet, .abcCollection, .abcIterable]

/-- Whether the values of a class are texts. -/
def isString (c : ClassRef) : Bool :=
  cat.derivesAny c stringClasses && !cat.isEnumeration c

/-- Whether the values of a class are truth values. -/
def isBoolean (c : ClassRef) : Bool :=
  cat.derives c .bool && !cat.isEnumeration c

/-- Whether the values of a class are whole numbers. -/
def isInteger (c : ClassRef) : Bool :=
  cat.derives c .int && !cat.isEnumeration c && !cat.derives c .bool

/-- Whether the values of a class are numbers. -/
def isNumber (c : ClassRef) : Bool :=
  cat.derivesAny c numberClasses && !cat.isEnumeration c

/-- Whether a class is the class of tuples. A class derived from it is a record. -/
def isFixedArray (c : ClassRef) : Bool := c = .builtin .tuple

/-- Whether a class is a collection. -/
def isCollection (c : ClassRef) : Bool :=
  collectionClasses.any (fun b => c = .builtin b) || cat.derivesAny c concreteCollections

/-- Whether a class is written as an object. This is the test of a root; elsewhere the kind of a
class decides (`kindOf_eq_object_iff`). -/
def isObject (c : ClassRef) : Bool :=
  !(cat.isString c || cat.isInteger c || cat.isNumber c || cat.isBoolean c ||
    cat.isEnumeration c || isFixedArray c || cat.isCollection c)

/-- Whether a class belongs to a program and not to the language. -/
def isCustom (c : ClassRef) : Bool := !StandardLibrary.contains (cat.moduleOf c)

/-- The kind of a class: the first that fits. -/
def kindOf (c : ClassRef) : TypeKind :=
  if cat.isString c then .string
  else if cat.isInteger c then .integer
  else if cat.isNumber c then .number
  else if cat.isBoolean c then .boolean
  else if cat.isEnumeration c then .enumeration
  else if isFixedArray c then .fixedArray
  else if cat.isCollection c then .collection
  else .object

/-- The object classes are those that no earlier kind fits. -/
theorem kindOf_eq_object_iff {cat : Catalog} {c : ClassRef} :
    cat.kindOf c = .object ↔ cat.isObject c = true := by
  simp only [kindOf, isObject]
  grind

/-- The names of the members of an enumeration. -/
def memberNames (c : ClassRef) : List String := (cat.info c.id).members

/-- The identifier under which a type is referred to. -/
def referenceId (t : TypeExpr) : String := NameId.ofName (cat.qualifiedName t)

end Catalog

end TypeSchema
