import TypeSchema.Typing.Constant
/-!
# Written expressions

An `Expression` is a type expression as it is written, before its names are looked up: in a
declaration, or inside the quotes of a forward reference. Any expression may stand there, be it
a type or not; what it means is the matter of `TypeSchema.Evaluation`.

`Expression.display` is the text of an expression, with parentheses only where they are needed.
It is what remains of an annotation that is kept as text.
-/

namespace TypeSchema

/-- An operator before its operand. -/
inductive UnaryOperator where
  | not | plus | minus | invert
  deriving DecidableEq, Repr

/-- An operator between two operands. -/
inductive BinaryOperator where
  | bitOr | bitXor | bitAnd | shiftLeft | shiftRight | add | subtract | multiply | matrixMultiply
  | divide | floorDivide | remainder | power
  deriving DecidableEq, Repr

/-- A comparison. -/
inductive Comparison where
  | equal | notEqual | less | lessOrEqual | greater | greaterOrEqual | same | notSame | member
  | notMember
  deriving DecidableEq, Repr

/-- The brackets that some items stand in. -/
inductive Grouping where
  | tuple | list | set | dict
  deriving DecidableEq, Repr

/-- How a parameter of a function without a name takes its argument: by position only, by position
or by name, by name only, or all that are left over. -/
inductive ParameterKind where
  | positional | ordinary | named | others | otherNames
  deriving DecidableEq, Repr

/-- A written expression. -/
inductive Expression where
  | name (id : String)
  | constant (value : Constant)
  | attribute (value : Expression) (name : String)
  /-- `value[key]`; several keys are a tuple. -/
  | index (value key : Expression)
  | call (function : Expression) (arguments : List Expression)
  | group (grouping : Grouping) (items : List Expression)
  /-- `*inner` -/
  | starred (inner : Expression)
  /-- `**inner` -/
  | doubleStarred (inner : Expression)
  /-- `key: value` in a dictionary. -/
  | entry (key value : Expression)
  /-- `name=value` in a call. -/
  | keyword (name : String) (value : Expression)
  | conditional (test body alternative : Expression)
  | all (operands : List Expression)
  | any (operands : List Expression)
  | unary (operator : UnaryOperator) (operand : Expression)
  | binary (operator : BinaryOperator) (left right : Expression)
  | comparison (first : Expression) (rest : List (Comparison × Expression))
  /-- `lower:upper:step` -/
  | slice (lower upper step : Expression)
  /-- Nothing, where something may be left out. -/
  | missing
  /-- A parameter of a function without a name, and what stands in where no argument is given. -/
  | parameter (kind : ParameterKind) (name : String) (default : Expression)
  /-- `lambda parameters: body` -/
  | lambda (parameters : List Expression) (body : Expression)
  /-- An item for every round of some clauses, gathered in a grouping or yielded one by one. -/
  | comprehension (grouping : Option Grouping) (item : Expression) (clauses : List Expression)
  /-- `for target in source`, with the conditions of a round. -/
  | clause (target source : Expression) (conditions : List Expression)
  /-- A formatted text, of texts and fields. -/
  | formatted (parts : List Expression)
  /-- A field in a formatted text: a value, how it is converted, and the format it is given. -/
  | field (value : Expression) (conversion : Option Char) (format : Expression)
  /-- `name := value` -/
  | binding (name : String) (value : Expression)
  deriving Inhabited, Repr

/-- The sign of an operator before its operand. -/
def UnaryOperator.sign : UnaryOperator → String
  | not => "not " | plus => "+" | minus => "-" | invert => "~"

namespace BinaryOperator

/-- The sign of an operator between two operands. -/
def sign : BinaryOperator → String
  | bitOr => "|" | bitXor => "^" | bitAnd => "&" | shiftLeft => "<<" | shiftRight => ">>"
  | add => "+" | subtract => "-" | multiply => "*" | matrixMultiply => "@" | divide => "/"
  | floorDivide => "//" | remainder => "%" | power => "**"

/-- How tightly an operator binds. -/
def level : BinaryOperator → Nat
  | bitOr => 7 | bitXor => 8 | bitAnd => 9 | shiftLeft | shiftRight => 10
  | add | subtract => 11
  | multiply | matrixMultiply | divide | floorDivide | remainder => 12
  | power => 14

/-- Every operator between two operands. -/
def all : List BinaryOperator :=
  [bitOr, bitXor, bitAnd, shiftLeft, shiftRight, add, subtract, multiply, matrixMultiply, divide,
   floorDivide, remainder, power]

theorem mem_all (op : BinaryOperator) : op ∈ all := by cases op <;> decide

end BinaryOperator

/-- The sign of a comparison. -/
def Comparison.sign : Comparison → String
  | equal => "==" | notEqual => "!=" | less => "<" | lessOrEqual => "<=" | greater => ">"
  | greaterOrEqual => ">=" | same => "is" | notSame => "is not" | member => "in"
  | notMember => "not in"

namespace Expression

/-- A name or an attribute reached through names. -/
def path : List String → Expression
  | [] => .missing
  | root :: rest => rest.foldl .attribute (.name root)

/-- A head and its keys in brackets: one key stands alone, and none is an empty tuple. -/
def subscript (head : Expression) : List Expression → Expression
  | [key] => .index head key
  | keys => .index head (.group .tuple keys)

/-- Texts with a separator between them. -/
def joined (separator : String) (texts : List String) : String := separator.intercalate texts

/-- The marks before the name of a parameter. -/
def parameterMarks : ParameterKind → String
  | .others => "*" | .otherNames => "**" | _ => ""

/-- A text in parentheses, if it binds less tightly than its place asks for. -/
def wrapped (place binding : Nat) (text : String) : String :=
  if binding < place then "(" ++ text ++ ")" else text

mutual

/-- The text of an expression where only what binds at least as tightly as `place` needs no
parentheses. -/
def displayAt (place : Nat) : Expression → String
  | .name id => id
  | .constant .ellipsis => "..."
  | .constant c => c.display
  | .attribute value attr =>
    let text := displayAt 16 value
    match value with
    | .constant (.int _) => text ++ " ." ++ attr
    | _ => text ++ "." ++ attr
  | .index value key => displayAt 16 value ++ "[" ++ displayAt 0 key ++ "]"
  | .call function arguments =>
    displayAt 16 function ++ "(" ++ joined ", " (displayAll arguments) ++ ")"
  | .group .tuple [] => "()"
  | .group .tuple [item] => wrapped place 0 (displayAt 1 item ++ ",")
  | .group .tuple items => wrapped place 0 (joined ", " (displayAll items))
  | .group .list items => "[" ++ joined ", " (displayAll items) ++ "]"
  | .group _ items => "\x7b" ++ joined ", " (displayAll items) ++ "\x7d"
  | .starred inner => "*" ++ displayAt 7 inner
  | .doubleStarred inner => "**" ++ displayAt 7 inner
  | .entry key value => displayAt 1 key ++ ": " ++ displayAt 1 value
  | .keyword argument value => argument ++ "=" ++ displayAt 1 value
  | .conditional test body alternative =>
    wrapped place 1
      (displayAt 2 body ++ " if " ++ displayAt 2 test ++ " else " ++ displayAt 1 alternative)
  | .all operands => wrapped place 3 (joined " and " (displayOperands 4 operands))
  | .any operands => wrapped place 2 (joined " or " (displayOperands 3 operands))
  | .unary .not operand => wrapped place 4 ("not " ++ displayAt 4 operand)
  | .unary op operand => wrapped place 13 (op.sign ++ displayAt 13 operand)
  | .binary .power left right =>
    wrapped place 14 (displayAt 15 left ++ " ** " ++ displayAt 14 right)
  | .binary op left right =>
    wrapped place op.level
      (displayAt op.level left ++ " " ++ op.sign ++ " " ++ displayAt (op.level + 1) right)
  | .comparison first rest => wrapped place 6 (displayAt 7 first ++ displayComparisons rest)
  | .slice lower upper step =>
    let last := displayAt 1 step
    displayAt 1 lower ++ ":" ++ displayAt 1 upper ++ if last = "" then "" else ":" ++ last
  | .missing => ""
  | .parameter kind id default =>
    match default with
    | .missing => parameterMarks kind ++ id
    | default => id ++ "=" ++ displayAt 1 default
  | .lambda parameters body =>
    let list := joined ", " (displayAll parameters)
    wrapped place 1 ((if list = "" then "lambda" else "lambda " ++ list) ++ ": " ++ displayAt 1 body)
  | .comprehension grouping item clauses =>
    let inside := displayAt 1 item ++ String.join (displayAll clauses)
    match grouping with
    | some .list => "[" ++ inside ++ "]"
    | some .set | some .dict => "\x7b" ++ inside ++ "\x7d"
    | _ => "(" ++ inside ++ ")"
  | .clause target source conditions =>
    " for " ++ displayAt 0 target ++ " in " ++ displayAt 2 source ++
      String.join ((displayOperands 2 conditions).map (" if " ++ ·))
  | .formatted parts => "f" ++ Text.quoted (displayParts parts)
  | .field value conversion format =>
    "\x7b" ++ displayAt 2 value ++ ((conversion.map fun c => "!" ++ c.toString).getD "") ++
      (match format with
        | .formatted parts => ":" ++ displayParts parts
        | _ => "") ++ "\x7d"
  | .binding id value => wrapped place 1 ("(" ++ id ++ " := " ++ displayAt 1 value ++ ")")

/-- The texts of some items. -/
def displayAll : List Expression → List String
  | [] => []
  | e :: es => displayAt 1 e :: displayAll es

/-- The text of the parts of a formatted text. -/
def displayParts : List Expression → String
  | [] => ""
  | .constant (.string s) :: es => s ++ displayParts es
  | e :: es => displayAt 1 e ++ displayParts es

/-- The texts of some operands. -/
def displayOperands (place : Nat) : List Expression → List String
  | [] => []
  | e :: es => displayAt place e :: displayOperands place es

/-- The text of some comparisons. -/
def displayComparisons : List (Comparison × Expression) → String
  | [] => ""
  | (op, e) :: rest => " " ++ op.sign ++ " " ++ displayAt 7 e ++ displayComparisons rest

end

/-- The text of an expression. A tuple on its own stands in parentheses. -/
def display (e : Expression) : String := displayAt 1 e

end Expression

end TypeSchema
