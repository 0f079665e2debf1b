import TypeSchema.Evaluation
/-!
# The resolved annotations of a class

`Catalog.hints` merges the annotations of a class and its ancestors, from the last ancestor
to the class itself, with every reference resolved. An annotation that is repeated further
down keeps its place and takes its new meaning. The first failure, in this order, is the
failure of the whole.

References are looked up in the module that the class that wrote the annotation names as its own, and
then among that class's own attributes.
-/

namespace TypeSchema.Catalog

variable (cat : Catalog)

/-- What an annotation means in a scope, all references resolved. -/
def meaning (scope : Scope) (written : TypeExpr) : Eval TypeExpr :=
  cat.meaningBy cat.eval scope written

/-- What the annotations of a class and its ancestors mean, by name. -/
def hints (c : ClassRef) : Except EvalError (List (String × TypeExpr)) :=
  Eval.value (cat.hintsBy cat.eval c) cat

end TypeSchema.Catalog
