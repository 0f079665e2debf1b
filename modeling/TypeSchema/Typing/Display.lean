import TypeSchema.Text.Quoted
import TypeSchema.Typing.Expr
import TypeSchema.Typing.Library
/-!
# Texts of several parts

Lists of texts with separators and brackets, and the names of the kinds of values.
-/

namespace TypeSchema

/-- Texts with a separator between them. -/
def joinWith (separator : String) (texts : List String) : String :=
  separator.intercalate texts

/-- A head and its arguments in brackets. -/
def bracketed (head : String) (args : List String) : String :=
  head ++ "[" ++ (if args.isEmpty then "()" else joinWith ", " args) ++ "]"

/-- Some texts in curly braces. -/
def braced (texts : List String) : String := "\x7b" ++ joinWith ", " texts ++ "\x7d"

/-- Some texts in parentheses. A single one is followed by a comma. -/
def parenthesized : List String → String
  | [text] => "(" ++ text ++ ",)"
  | texts => "(" ++ joinWith ", " texts ++ ")"

/-- Some names as they are listed in a sentence. -/
def listed (names : List String) : String :=
  match names.map fun n => "'" ++ n ++ "'" with
  | [] => ""
  | [a] => a
  | [a, b] => a ++ " and " ++ b
  | quoted => joinWith ", " quoted.dropLast ++ ", and " ++ quoted.getLastD ""

/-- The name of a grouping of items. -/
def Grouping.name : Grouping → String
  | tuple => "tuple" | list => "list" | set => "set" | dict => "dict"

/-- The name of the kind of a value that is told by the way it is written, if it is. -/
def TypeExpr.writtenKind? : TypeExpr → Option String
  | .form .keywordOnly => some "_KW_ONLY_TYPE"
  | .form .literal => some "_LiteralSpecialForm"
  | .form _ => some "_SpecialForm"
  | .typingName .tuple => some "_TupleType"
  | .typingName .callable => some "_CallableType"
  | .typingName _ => some "_SpecialGenericAlias"
  | .subscript (.direct (.builtin .abcCallable)) _ | .subscript (.typingName .callable) _ =>
    some "_CallableGenericAlias"
  | .subscript (.direct _) _ | .subscript (.flat _) _ | .unpacked _ => some "types.GenericAlias"
  | .subscript (.form .unpack) _ => some "_UnpackGenericAlias"
  | .subscript (.form .concatenate) _ => some "_ConcatenateGenericAlias"
  | .subscript _ _ => some "_GenericAlias"
  | .literal _ => some "_LiteralGenericAlias"
  | .union .named _ => some "_UnionGenericAlias"
  | .union .bars _ => some "types.UnionType"
  | .annotated _ _ => some "_AnnotatedAlias"
  | .initVar _ _ => some "InitVar"
  | .forwardRef _ _ _ => some "ForwardRef"
  | .typeVar _ => some "TypeVar"
  | .newType _ => some "NewType"
  | .constant c => some c.className
  | .group g _ => some g.name
  | .description _ _ => some "Description"
  | .fieldReader _ => some "_collections._tuplegetter"
  | .function name =>
    some (if BuiltinName.isSpelledOut name then "function" else "builtin_function_or_method")
  | .closure _ => some "function"
  | .method _ _ => some "builtin_function_or_method"
  | .module _ => some "module"
  | .cls _ _ | .member _ _ _ | .object _ _ _ => none

end TypeSchema
