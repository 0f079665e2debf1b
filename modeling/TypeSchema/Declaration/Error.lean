import TypeSchema.Catalog.Registry
import TypeSchema.Evaluation.Error
/-!
# Errors of declarations

Why a declaration fails. Most have to do with what a class is derived from (`BaseFault`) or with what
its body holds (`BodyFault`).
-/

namespace TypeSchema

/-- Why a class cannot be derived from something. -/
inductive BaseFault where
  /-- A type that is no class. -/
  | notSubclassable (shown : String)
  /-- A type of its own that is no class. -/
  | newType (name derived : String)
  /-- A value by itself, with what its class says of it. -/
  | value (text : String)
  /-- A value whose class needs its ancestors. -/
  | withoutAncestors (kind : String)
  | notAClass
  | metaclassConflict
  | final (shown : String)
  | layoutConflict
  | repeated (name : String)
  /-- The bases have no common search order; the classes that block each other. -/
  | inconsistent (names : List String)
  | plainGeneric
  | genericTwice
  | unlistedVariables (missing listed : List String)
  /-- A class whose type variables leave out those of a base that is a model. -/
  | unlistedModelVariables (shown : List String) (withGenericLast : Option (String × List String))
  | notAProtocol (shown : String)
  | special
  | notTypedDict
  | notNamedTuple
  /-- A keyword beside bases that take none. -/
  | keyword (name : String)
  /-- An enumeration that has members already. -/
  | extended (name shown : String)
  | enumerationNotLast
  | dataTypes (name : String) (shown : List String)
  | withoutDataType
  | frozen
  deriving DecidableEq, Repr

/-- The text of a base fault. -/
def BaseFault.message : BaseFault → String
  | notSubclassable shown => "Cannot subclass " ++ shown
  | newType name derived =>
    "Cannot subclass an instance of NewType. Perhaps you were looking for: `" ++ derived ++
      " = NewType(" ++ Text.quoted derived ++ ", " ++ name ++ ")`"
  | value text => text
  | withoutAncestors kind => listed [kind] ++ " object has no attribute '__mro__'"
  | notAClass => "issubclass() arg 1 must be a class"
  | metaclassConflict =>
    "metaclass conflict: the metaclass of a derived class must be a (non-strict) subclass of " ++
      "the metaclasses of all its bases"
  | final shown => "type " ++ listed [shown] ++ " is not an acceptable base type"
  | layoutConflict => "multiple bases have instance lay-out conflict"
  | repeated name => "duplicate base class " ++ name
  | inconsistent names =>
    "Cannot create a consistent method resolution\norder (MRO) for bases " ++
      joinWith ", " names
  | plainGeneric => "Cannot inherit from plain Generic"
  | genericTwice => "Cannot inherit from Generic[...] multiple times."
  | unlistedVariables missing listed =>
    "Some type variables (" ++ joinWith ", " missing ++ ") are not listed in Generic[" ++
      joinWith ", " listed ++ "]"
  | unlistedModelVariables shown withGenericLast =>
    let generic := "typing.Generic[" ++ joinWith ", " shown ++ "]"
    "All parameters must be present on typing.Generic; you should inherit from " ++ generic ++
      "." ++ match withGenericLast with
        | some (name, bases) =>
          " Note: `typing.Generic` must go last: `class " ++ name ++ "(" ++
            joinWith ", " (bases ++ [generic]) ++ "): ...`)"
        | none => ""
  | notAProtocol shown => "Protocols can only inherit from other protocols, got " ++ shown
  | special => "Cannot subclass special typing classes"
  | notTypedDict => "cannot inherit from both a TypedDict type and a non-TypedDict base class"
  | notNamedTuple => "can only inherit from a NamedTuple type and Generic"
  | keyword name => name ++ ".__init_subclass__() takes no keyword arguments"
  | extended name shown => "<enum " ++ Text.quoted name ++ "> cannot extend " ++ shown
  | enumerationNotLast =>
    "new enumerations should be created as `EnumName([mixin_type, ...] [data_type,] enum_type)`"
  | dataTypes name shown =>
    "too many data types for " ++ Text.quoted name ++ ": " ++ braced shown
  | withoutDataType =>
    "ReprEnum subclasses must be mixed with a data type (i.e. int, str, float, etc.)"
  | frozen => "cannot inherit non-frozen dataclass from a frozen one"

/-- Why the body of a class is refused. -/
inductive BodyFault where
  | reservedName (name : String)
  | repeatedMember (name shown : String)
  /-- Names that are to be ignored after they were given values. -/
  | ignoredTooLate (names : List String)
  | memberName (name : String)
  | memberOrder (actual : List String) (expected : String)
  | keywordOnlyTwice (name : String)
  /-- A field of a named tuple that has to be given, after some that need not be. -/
  | requiredAfterDefaults (name : String) (defaults : List String)
  | underscoredTupleField (name : String)
  /-- A name that named tuples give a meaning of their own. -/
  | tupleName (name : String)
  | underscoredModelField (name : String)
  /-- A model that is configured twice. -/
  | configuredTwice
  /-- A field of a model that stands for the whole of it. -/
  | rootField
  /-- A name that a model binds without an annotation although a base has a field of that name. -/
  | overriddenField (name : String)
  /-- A name that a model binds without an annotation. -/
  | unannotated (name shown : String)
  /-- A field of a model that is qualified as none may be. -/
  | qualified (label qualifier : String)
  /-- A field of a model under the name of a member that starts with a protected text. -/
  | protectedField (name shown start : String)
  /-- A value of some kind that hides the table of annotations. -/
  | unassignable (kind : String)
  /-- A value of some kind in place of a qualified name. -/
  | qualnameKind (kind : String)
  /-- A value of some kind in place of the name of an attribute that instances have room for. -/
  | slotKind (kind : String)
  | slotName
  /-- An attribute that instances have room for under a name that the body binds. -/
  | slotTaken (name : String)
  /-- Room for attributes in instances that differ in size. -/
  | sizedSlots (base : String)
  /-- A value under the name by which a class is handed to its functions, by its class. -/
  | cell (shown : String)
  /-- A field whose value, where none is given, may change. -/
  | changingDefault (kind name : String)
  /-- A field under a name that cannot be taken away from a class. -/
  | fixedAttribute (name className : String)
  /-- A field whose name is none that an argument may have, with the line that shows it. -/
  | fieldName (text : String) (line : Nat)
  deriving DecidableEq, Repr

/-- The text of a body fault. -/
def BodyFault.message : BodyFault → String
  | reservedName name =>
    "_sunder_ names, such as " ++ Text.quoted name ++ ", are reserved for future Enum use"
  | repeatedMember name shown => Text.quoted name ++ " already defined as " ++ shown
  | ignoredTooLate names =>
    "_ignore_ cannot specify already set names: " ++ braced (names.map Text.quoted)
  | memberName name => "invalid enum member name(s) " ++ Text.quoted name
  | memberOrder actual expected =>
    "member order does not match _order_:\n  [" ++ joinWith ", " (actual.map Text.quoted) ++
      "]\n  " ++ expected
  | keywordOnlyTwice name =>
    Text.quoted name ++ " is KW_ONLY, but KW_ONLY has already been specified"
  | requiredAfterDefaults name defaults =>
    "Non-default namedtuple field " ++ name ++ " cannot follow default field" ++
      (if defaults.length = 1 then " " else "s ") ++ joinWith ", " defaults
  | underscoredTupleField name =>
    "Field names cannot start with an underscore: " ++ Text.quoted name
  | tupleName name => "Cannot overwrite NamedTuple attribute " ++ name
  | underscoredModelField name =>
    let bare := String.ofList (name.toList.dropWhile (· == '_'))
    "Fields must not use names with leading underscores; e.g., use " ++
      Text.quoted (if bare = "" then "my_field" else bare) ++ " instead of " ++
      Text.quoted name ++ "."
  | configuredTwice =>
    "\"Config\" and \"model_config\" cannot be used together" ++ furtherInformation "config-both"
  | rootField =>
    "To define root models, use `pydantic.RootModel` rather than a field called '__root__'"
  | overriddenField name =>
    "Field " ++ Text.quoted name ++ " defined on a base class was overridden by a non-annotated " ++
      "attribute. All field definitions, including overrides, require a type annotation." ++
      furtherInformation "model-field-overridden"
  | unannotated name shown =>
    "A non-annotated attribute was detected: `" ++ name ++ " = " ++ shown ++
      "`. All model fields require a type annotation; if `" ++ name ++
      "` is not meant to be a field, you may be able to resolve this error by annotating it as " ++
      "a `ClassVar` or updating `model_config['ignored_types']`." ++
      furtherInformation "model-field-missing-annotation"
  | qualified label qualifier =>
    "The annotation " ++ Text.quoted label ++ " contains the " ++ Text.quoted qualifier ++
      " type qualifier, which is invalid in the context it is defined."
  | protectedField name shown start =>
    "Field " ++ Text.quoted name ++ " conflicts with member " ++ shown ++
      " of protected namespace " ++ Text.quoted start ++ "."
  | unassignable kind => listed [kind] ++ " object does not support item assignment"
  | qualnameKind kind => "type __qualname__ must be a str, not " ++ kind
  | slotKind kind => "__slots__ items must be strings, not " ++ listed [kind]
  | slotName => "__slots__ must be identifiers"
  | slotTaken name => Text.quoted name ++ " in __slots__ conflicts with class variable"
  | sizedSlots base => "nonempty __slots__ not supported for subtype of " ++ listed [base]
  | cell shown => "__classcell__ must be a nonlocal cell, not " ++ shown
  | changingDefault kind name =>
    "mutable default <class " ++ listed [kind] ++ "> for field " ++ name ++
      " is not allowed: use default_factory"
  | fixedAttribute name className =>
    "cannot delete " ++ listed [name] ++ " attribute of immutable type " ++ listed [className]
  | fieldName text line => text ++ " (<string>, line " ++ toString line ++ ")"

/-- Why a declaration failed. -/
inductive DeclareError where
  | evaluation (cause : EvalError)
  | registry (cause : RegistryFault)
  | base (fault : BaseFault)
  | body (fault : BodyFault)
  /-- A qualified name that is no text. -/
  | qualnameNotText (name kind : String)
  deriving DecidableEq, Repr

/-- The text of a declaration error. -/
def DeclareError.message : DeclareError → String
  | .evaluation cause => cause.message
  | .registry cause => cause.message
  | .base fault => fault.message
  | .body fault => fault.message
  | .qualnameNotText name kind =>
    "can only assign string to " ++ name ++ ".__qualname__, not " ++ listed [kind]

end TypeSchema
