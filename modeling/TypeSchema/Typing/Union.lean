import TypeSchema.Typing.Equality
/-!
# Building type expressions

The normal forms in which unions, literals and annotations are kept, and the two views that
classification needs: the *origin* of an expression, which is what stands before its
brackets, and its *arguments*.

* A union is flat and without repetitions; the first of equal members stays, and a union
  of one member is that member.
* A literal is flat and without repetitions.
* An annotated annotated type has the metadata of both, the inner one's first.
-/

namespace TypeSchema.TypeExpr

/-- A list without the items that are the same as an earlier one. -/
def distinct : List TypeExpr → List TypeExpr
  | [] => []
  | x :: xs => x :: (distinct xs).filter fun y => !same x y

/-- The members that an expression contributes to a union it stands in. -/
def unionMembers : TypeExpr → List TypeExpr
  | .union _ members => members
  | t => [t]

/-- The union of some expressions. -/
def unionOf (style : UnionStyle) (members : List TypeExpr) : TypeExpr :=
  match distinct (members.flatMap unionMembers) with
  | [t] => t
  | ts => .union style ts

/-- The values that an expression contributes to a literal it stands in. -/
def literalValues : TypeExpr → List TypeExpr
  | .literal values => values
  | t => [t]

/-- A list of values without those that are, with their class, the same as an earlier one. -/
def distinctValues : List TypeExpr → List TypeExpr
  | [] => []
  | x :: xs => x :: (distinctValues xs).filter fun y => !(same x y && sameClass x y)

mutual

/-- The part of a value that keeps it from being an item of a set, if there is one. -/
def changingPart? : TypeExpr → Option TypeExpr
  | .group .tuple items => changingPartOf? items
  | .group g items => some (.group g items)
  | .object _ (.builtin .frozenset) [.group .set items] => changingPartOf? items
  | .object n (.builtin b) values =>
    if b.isChanging then some (.object n (.builtin b) values) else changingPartOf? values
  | .object _ _ values => changingPartOf? values
  | .subscript _ args => changingPartOf? args
  | .literal values => changingPartOf? values
  | .union _ members => changingPartOf? members
  | .annotated inner metadata => changingPart? inner <|> changingPartOf? metadata
  | _ => none

/-- The first part of some values that keeps them from being items of a set. -/
def changingPartOf? : List TypeExpr → Option TypeExpr
  | [] => none
  | t :: ts => changingPart? t <|> changingPartOf? ts

end

/-- What `Literal[…]` means. Values that change are not compared. -/
def literalOf (values : List TypeExpr) : TypeExpr :=
  let flat := values.flatMap literalValues
  .literal (if (changingPartOf? flat).isNone then distinctValues flat else flat)

/-- What `Annotated[inner, …]` means. -/
def annotate : TypeExpr → List TypeExpr → TypeExpr
  | .annotated inner first, more => .annotated inner (first ++ more)
  | inner, metadata => .annotated inner metadata

/-- What stands before the brackets of an expression, as a type expression. -/
def origin? : TypeExpr → Option TypeExpr
  | .typingName a => some (builtin a.origin)
  | .subscript (.direct id) _ | .subscript (.flat id) _ | .subscript (.generic id) _ =>
    some (.cls id [])
  | .subscript (.typingName a) _ => some (builtin a.origin)
  | .subscript (.form f) _ => some (.form f)
  | .unpacked inner => origin? inner
  | .literal _ => some (.form .literal)
  | .union .named _ => some (.form .union)
  | .union .bars _ => some (builtin .unionType)
  | .annotated _ _ => some (builtin .annotated)
  | t => if t = builtin .generic then some t else none

/-- Whether a value stands for all the parameters of a callable. -/
def isParameterList : TypeExpr → Bool
  | .constant .ellipsis | .group .tuple _ | .group .list _ | .subscript (.form .concatenate) _ => true
  | _ => false

/-- The parameters and the result of a callable with the given arguments. -/
def callableArguments (args : List TypeExpr) : List TypeExpr :=
  match args with
  | [ps, result] =>
    if isParameterList ps then [ps, result] else [.group .list [ps], result]
  | _ => [.group .list args.dropLast, args.getLastD noneType]

/-- The arguments in the brackets of an expression. -/
def arguments : TypeExpr → List TypeExpr
  | .subscript (.typingName .callable) args
  | .subscript (.direct (.builtin .abcCallable)) args
  | .subscript (.flat (.builtin .abcCallable)) args => callableArguments args
  | .subscript _ args => args
  | .unpacked inner => arguments inner
  | .literal values => values
  | .union _ members => members
  | .annotated inner metadata => inner :: metadata
  | _ => []

end TypeSchema.TypeExpr
