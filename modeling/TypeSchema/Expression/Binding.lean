import TypeSchema.Expression.Basic
/-!
# Names that an expression binds

`Expression.targetNames` lists the names that are bound by what stands between `for` and `in`, and
`Expression.boundNames` those that are bound by `:=` in an expression, but not inside the functions
in it, which keep their names to themselves.
-/

namespace TypeSchema.Expression

mutual

/-- The names that a target binds. -/
def targetNames : Expression → List String
  | .name id => [id]
  | .group _ items => targetNamesOfAll items
  | .starred inner => targetNames inner
  | .clause target _ _ => targetNames target
  | _ => []

/-- The names that some targets bind. -/
def targetNamesOfAll : List Expression → List String
  | [] => []
  | e :: es => targetNames e ++ targetNamesOfAll es

end

mutual

/-- The names that `:=` binds in an expression. -/
def boundNames : Expression → List String
  | .binding id value => id :: boundNames value
  | .attribute value _ | .starred value | .doubleStarred value | .keyword _ value
  | .unary _ value => boundNames value
  | .index value key | .binary _ value key | .entry value key => boundNames value ++ boundNames key
  | .call function arguments => boundNames function ++ boundNamesOfAll arguments
  | .group _ items | .all items | .any items | .formatted items => boundNamesOfAll items
  | .conditional test body alternative =>
    boundNames test ++ boundNames body ++ boundNames alternative
  | .comparison first rest => boundNames first ++ boundNamesOfComparisons rest
  | .slice lower upper step => boundNames lower ++ boundNames upper ++ boundNames step
  | .lambda parameters _ => boundNamesOfAll parameters
  | .parameter _ _ default => boundNames default
  | .comprehension _ item clauses => boundNames item ++ boundNamesOfAll clauses
  | .clause _ source conditions => boundNames source ++ boundNamesOfAll conditions
  | .field value _ format => boundNames value ++ boundNames format
  | .name _ | .constant _ | .missing => []

/-- The names that `:=` binds in some expressions. -/
def boundNamesOfAll : List Expression → List String
  | [] => []
  | e :: es => boundNames e ++ boundNamesOfAll es

/-- The names that `:=` binds in some comparisons. -/
def boundNamesOfComparisons : List (Comparison × Expression) → List String
  | [] => []
  | (_, e) :: rest => boundNames e ++ boundNamesOfComparisons rest

end

end TypeSchema.Expression
