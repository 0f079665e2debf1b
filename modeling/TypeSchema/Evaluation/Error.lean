import TypeSchema.Text.Address
import TypeSchema.Typing.Arithmetic
import TypeSchema.Typing.Display
/-!
# Errors of evaluation

Why an expression has no value. An `EvalError` says what went wrong in the terms of the program
that wrote the expression; `EvalError.message` is the text that it sees.

`TypeFault` holds the largest group: values that are used in a way that their kind does not allow.
Values are mentioned in it by their texts, which the catalog makes.
-/

namespace TypeSchema

/-- What a list of parameters of a generic class has to be. -/
inductive ParameterRule where
  | notEmpty | allVariables | allDifferent
  deriving DecidableEq, Repr

/-- Why a list of parameters is refused. -/
def ParameterRule.message (head : String) : ParameterRule → String
  | notEmpty => "Parameter list to " ++ head ++ "[...] cannot be empty"
  | allVariables =>
    "Parameters to " ++ head ++
      "[...] must all be type variables or parameter specification variables."
  | allDifferent => "Parameters to " ++ head ++ "[...] must all be unique"

/-- A use of values that their kinds do not allow. -/
inductive TypeFault where
  | notSubscriptable (head : String)
  /-- Something whose arguments are given already. -/
  | notGeneric (shown : String)
  | subscriptedTwice (shown : String)
  /-- A subscription that is no argument of another one. -/
  | notArgument (shown : String)
  /-- A name that is no type without arguments. -/
  | plainForm (shown : String)
  /-- Something else than what is demanded. -/
  | notDemanded (demand shown : String)
  | argumentCount (shown : String) (actual : Nat) (tooMany : Bool) (expected : String)
  | parameters (head : String) (rule : ParameterRule)
  /-- A union or another list of types without any. -/
  | noTypes (head : String)
  | lastOfConcatenation
  | callableShape
  | callableParameters (shown : String)
  | annotationShape
  /-- A model without parameters. -/
  | modelWithoutParameters (shown : String)
  /-- The class of all models with arguments. -/
  | argumentsOfAllModels
  | operands (sign left right : String)
  | operand (sign kind : String)
  | order (sign left right : String)
  | concatenation (left right : String)
  | byteConcatenation (kind : String)
  | unusedFormatArguments
  | repetition (kind : String)
  /-- An index of a wrong kind. -/
  | index (what demand kind : String)
  | unhashable (kind : String)
  | notIterable (kind : String)
  | starOperand (kind : String)
  /-- An argument of a call after a star, or after two. -/
  | starArgument (function : String) (isMapping : Bool) (kind : String)
  | notMapping (kind : String)
  | notContainer (kind : String)
  /-- Something looked for in a text, or among bytes, that cannot be there. -/
  | notInText (kind : String)
  | notInBytes (kind : String)
  | notCallable (kind : String)
  | notInstantiable (shown : String)
  | useOrigin (name origin : String)
  | anyInstance
  | takesNothing (name : String)
  | missingArguments (function role : String) (names : List String)
  | positionalCount (function expected : String) (given keywordGiven : Nat)
  | unexpectedArgument (function name : String)
  | repeatedArgument (function name : String)
  /-- A slice whose bounds are no numbers. -/
  | sliceBounds
  /-- Too many or too few arguments of a function that says so in its own words. -/
  | argumentText (text : String)
  | noLength (kind : String)
  | joinedItem (position : Nat) (kind : String)
  | notConvertible (function demand kind : String)
  | notInteger (kind : String)
  /-- Something of which no bytes can be made, by the name of the class of bytes. -/
  | notBytes (kind className : String)
  | textWithoutEncoding
  /-- A value of an enumeration of texts that is no text. -/
  | notAText (shown : String)
  /-- An item of which no entry of a dictionary can be made. -/
  | notAnEntry (position : Nat)
  deriving DecidableEq, Repr

/-- A value of the right kind that a class cannot make an instance of. -/
inductive ValueFault where
  /-- A text that is no number of a kind, by the words for it. -/
  | notReadable (what shown : String)
  | malformedComplex
  | negativeCount
  /-- A number outside the range of bytes. -/
  | byteRange (what : String)
  /-- An item with a number of parts that no entry of a dictionary has. -/
  | entryLength (position length : Nat)
  | partsMissing (given : Nat)
  | tooManyParts
  | hour
  | decimalParts
  | decimalSign
  | decimalDigits
  | decimalMark
  | decimalExponent
  /-- A fault that is told in its own words. -/
  | text (words : String)
  deriving DecidableEq, Repr

/-- The text of a value fault. -/
def ValueFault.message : ValueFault → String
  | notReadable what shown => "could not convert string to " ++ what ++ ": " ++ shown
  | malformedComplex => "complex() arg is a malformed string"
  | negativeCount => "negative count"
  | byteRange what => what ++ " must be in range(0, 256)"
  | entryLength position length =>
    "dictionary update sequence element #" ++ toString position ++ " has length " ++
      toString length ++ "; 2 is required"
  | partsMissing given =>
    "need more than " ++ toString given ++ (if given = 1 then " value" else " values") ++
      " to unpack"
  | tooManyParts => "too many values to unpack (expected 2)"
  | hour => "hour must be in 0..23"
  | decimalParts => "argument must be a sequence of length 3"
  | decimalSign => "sign must be an integer with the value 0 or 1"
  | decimalDigits => "coefficient must be a tuple of digits"
  | decimalMark => "string argument in the third position must be 'F', 'n' or 'N'"
  | decimalExponent => "exponent must be an integer"
  | .text words => words

/-- A number that is too large, or too small, for what is made of it. -/
inductive OverflowFault where
  | float | index | long | int | aboveInt | belowInt | character
  | days (count : Int)
  deriving DecidableEq, Repr

/-- The text of an overflow. -/
def OverflowFault.message : OverflowFault → String
  | float => "int too large to convert to float"
  | index => "cannot fit 'int' into an index-sized integer"
  | long => "Python int too large to convert to C long"
  | int => "Python int too large to convert to C int"
  | aboveInt => "signed integer is greater than maximum"
  | belowInt => "signed integer is less than minimum"
  | character => "%c arg not in range(0x110000)"
  | days count => "days=" ++ toString count ++ "; must have magnitude <= 999999999"

/-- Something in the singular, or in the plural with its number. -/
def counted (n : Nat) (what : String) : String :=
  toString n ++ " " ++ what ++ if n = 1 then "" else "s"

namespace TypeFault

/-- How many arguments were given to a function that takes fewer by position. -/
def givenText (given keywordGiven : Nat) : String :=
  if keywordGiven = 0 then toString given ++ (if given = 1 then " was given" else " were given")
  else
    counted given "positional argument" ++ " (and " ++
      counted keywordGiven "keyword-only argument" ++ ") were given"

/-- The text of a fault. -/
def message : TypeFault → String
  | notSubscriptable head => head ++ " is not subscriptable"
  | notGeneric shown => shown ++ " is not a generic class"
  | subscriptedTwice shown => "Cannot subscript already-subscripted " ++ shown
  | notArgument shown => shown ++ " is not valid as type argument"
  | plainForm shown => "Plain " ++ shown ++ " is not valid as type argument"
  | notDemanded demand shown => demand ++ " Got " ++ shown ++ "."
  | argumentCount shown actual tooMany expected =>
    "Too " ++ (if tooMany then "many" else "few") ++ " arguments for " ++ shown ++ "; actual " ++
      toString actual ++ ", expected " ++ expected
  | parameters head rule => rule.message head
  | noTypes head => "Cannot take a " ++ head ++ " of no types."
  | lastOfConcatenation =>
    "The last parameter to Concatenate should be a ParamSpec variable or ellipsis."
  | callableShape => "Callable must be used as Callable[[arg, ...], result]."
  | callableParameters shown =>
    "Expected a list of types, an ellipsis, ParamSpec, or Concatenate. Got " ++ shown
  | annotationShape =>
    "Annotated[...] should be used with at least two arguments (a type and an annotation)."
  | modelWithoutParameters shown =>
    shown ++ " cannot be parametrized because it does not inherit from typing.Generic"
  | argumentsOfAllModels =>
    "Type parameters should be placed on typing.Generic, not BaseModel"
  | operands sign left right =>
    "unsupported operand type(s) for " ++ sign ++ ": " ++ listed [left, right]
  | operand sign kind => "bad operand type for unary " ++ sign ++ ": " ++ listed [kind]
  | order sign left right =>
    listed [sign] ++ " not supported between instances of " ++ listed [left, right]
  | concatenation left right =>
    "can only concatenate " ++ left ++ " (not \"" ++ right ++ "\") to " ++ left
  | byteConcatenation kind => "can't concat " ++ kind ++ " to bytes"
  | unusedFormatArguments => "not all arguments converted during string formatting"
  | repetition kind => "can't multiply sequence by non-int of type " ++ listed [kind]
  | index what demand kind => what ++ " indices must be " ++ demand ++ ", not " ++ kind
  | unhashable kind => "unhashable type: " ++ listed [kind]
  | notIterable kind => listed [kind] ++ " object is not iterable"
  | starOperand kind => "Value after * must be an iterable, not " ++ kind
  | starArgument function isMapping kind =>
    function ++ " argument after " ++ (if isMapping then "** must be a mapping" else
      "* must be an iterable") ++ ", not " ++ kind
  | notMapping kind => listed [kind] ++ " object is not a mapping"
  | notContainer kind => "argument of type " ++ listed [kind] ++ " is not iterable"
  | notInText kind => "'in <string>' requires string as left operand, not " ++ kind
  | notInBytes kind => "a bytes-like object is required, not " ++ listed [kind]
  | notCallable kind => listed [kind] ++ " object is not callable"
  | notInstantiable shown => "Cannot instantiate " ++ shown
  | useOrigin name origin =>
    "Type " ++ name ++ " cannot be instantiated; use " ++ origin ++ "() instead"
  | anyInstance => "Any cannot be instantiated"
  | takesNothing name => name ++ "() takes no arguments"
  | missingArguments function role names =>
    function ++ " missing " ++ counted names.length ("required " ++ role ++ " argument") ++
      ": " ++ listed names
  | positionalCount function expected given keywordGiven =>
    function ++ " takes " ++ expected ++ " but " ++ givenText given keywordGiven
  | unexpectedArgument function name =>
    function ++ " got an unexpected keyword argument " ++ listed [name]
  | repeatedArgument function name =>
    function ++ " got multiple values for argument " ++ listed [name]
  | sliceBounds => "slice indices must be integers or None or have an __index__ method"
  | argumentText text => text
  | noLength kind => "object of type " ++ listed [kind] ++ " has no len()"
  | joinedItem position kind =>
    "sequence item " ++ toString position ++ ": expected str instance, " ++ kind ++ " found"
  | notConvertible function demand kind =>
    function ++ " argument must be " ++ demand ++ ", not " ++ listed [kind]
  | notInteger kind => listed [kind] ++ " object cannot be interpreted as an integer"
  | notBytes kind className => "cannot convert " ++ listed [kind] ++ " object to " ++ className
  | notAText shown => shown ++ " is not a string"
  | textWithoutEncoding => "string argument without an encoding"
  | notAnEntry position =>
    "cannot convert dictionary update sequence element #" ++ toString position ++
      " to a sequence"

end TypeFault

/-- The text of a division by nothing. -/
def Division.message : Division → String
  | whole => "integer division or modulo by zero"
  | remainder => "integer modulo by zero"
  | fraction => "division by zero"
  | floatFraction => "float division by zero"
  | floatWhole => "float floor division by zero"
  | floatRemainder => "float modulo"
  | zeroPower => "0.0 cannot be raised to a negative power"

/-- How a name has no value. -/
inductive Absence where
  /-- Nothing has the name. -/
  | undefined
  /-- The frame that has the name gives it no value before it is used. -/
  | unassigned
  /-- A frame further out gives it no value before it is used. -/
  | unassignedOutside
  deriving DecidableEq, Repr, Inhabited

/-- What is said of a name without a value. -/
def Absence.message (name : String) : Absence → String
  | undefined => "name " ++ Text.quoted name ++ " is not defined"
  | unassigned =>
    "cannot access local variable " ++ Text.quoted name ++
      " where it is not associated with a value"
  | unassignedOutside =>
    "cannot access free variable " ++ Text.quoted name ++
      " where it is not associated with a value in enclosing scope"

/-- Why an expression has no value. -/
inductive EvalError where
  | undefinedName (absence : Absence) (name : String)
  /-- The text of a reference is no expression. -/
  | notExpression (text : String)
  /-- The text of a reference is empty. -/
  | emptyReference
  /-- The text of a reference holds a character that no text of a program has. -/
  | nullCharacter
  /-- Something without an attribute, by what texts call it, if they call it anything. -/
  | missingAttribute (owner : Option String) (name : String)
  | missingInModule (module name : String)
  /-- A key that is not there, by its text. -/
  | missingKey (shown : String)
  /-- An index that no item has, after the name of the sequence if it is mentioned. -/
  | outOfRange (what : String)
  /-- A field of a template for an argument that is not given. -/
  | unreachable (place : Nat)
  /-- An item of something that has none, by the words for it. -/
  | emptied (words : String)
  | arithmetic (fault : ArithmeticFault)
  /-- A slice that goes nowhere. -/
  | zeroStep
  /-- A value of no member of an enumeration. -/
  | notAMember (shown className : String)
  /-- A text that is no whole number. -/
  | notANumber (kind shown : String)
  /-- A value of which a class makes no instance. -/
  | unsuitable (fault : ValueFault)
  | overflow (fault : OverflowFault)
  | address (fault : Text.AddressFault)
  /-- A text that is no decimal number, or a use of one that signals. -/
  | decimal (isText : Bool)
  | outOfMemory
  /-- An iterator that has nothing left to yield. -/
  | exhausted
  /-- Calls inside each other without end. -/
  | tooDeep
  | missingModule (name : String)
  | misused (fault : TypeFault)
  /-- A model with a field that holds a typed dictionary of the `typing` module. -/
  | typedDictInModel
  /-- A resolution that must not fail this way. -/
  | contradiction
  deriving DecidableEq, Repr

/-- Where a message says that more is written about it. -/
def furtherInformation (topic : String) : String :=
  "\n\nFor further information visit https://errors.pydantic.dev/2.14/u/" ++ topic

/-- The text of an evaluation error. -/
def EvalError.message : EvalError → String
  | .undefinedName absence name => absence.message name
  | .notExpression text =>
    "Forward reference must be an expression -- got " ++ Text.quoted text
  | .emptyReference => "string index out of range"
  | .nullCharacter => "source code string cannot contain null bytes"
  | .missingAttribute none name => name
  | .missingAttribute (some owner) name => owner ++ " has no attribute " ++ Text.quoted name
  | .missingInModule module name =>
    "module " ++ Text.quoted module ++ " has no attribute " ++ Text.quoted name
  | .missingKey shown => shown
  | .outOfRange what => what ++ "index out of range"
  | .unreachable place =>
    "Replacement index " ++ toString place ++ " out of range for positional args tuple"
  | .emptied words => words
  | .arithmetic (.division division) => division.message
  | .arithmetic .negativeShift => "negative shift count"
  | .zeroStep => "slice step cannot be zero"
  | .notAMember shown className => shown ++ " is not a valid " ++ className
  | .notANumber kind shown => "invalid literal for " ++ kind ++ ": " ++ shown
  | .unsuitable fault => fault.message
  | .overflow fault => fault.message
  | .address fault => fault.message
  | .decimal isText =>
    "[<class 'decimal." ++ (if isText then "ConversionSyntax" else "InvalidOperation") ++ "'>]"
  | .outOfMemory | .exhausted => ""
  | .tooDeep => "maximum recursion depth exceeded"
  | .missingModule name => "No module named " ++ Text.quoted name
  | .misused fault => fault.message
  | .typedDictInModel =>
    "Please use `typing_extensions.TypedDict` instead of `typing.TypedDict` on Python < 3.12." ++
      furtherInformation "typed-dict-version"
  | .contradiction => ""

end TypeSchema
