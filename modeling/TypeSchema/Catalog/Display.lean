import TypeSchema.Catalog.Basic
import TypeSchema.Text.Address
import TypeSchema.Typing.Display
import TypeSchema.Typing.Methods
/-!
# Showing type expressions

The text of a type expression in a message. A class is shown differently on its own, as an
argument of a `typing` name, and as an item of a class or of a union written with bars
(`Place`); most others are shown the same everywhere.

A generic model at arguments is named after them: `Box[int]`. That name shows the
arguments by their labels, which leave modules out.
-/

namespace TypeSchema

/-- Where a type expression is shown. -/
inductive Place where
  /-- On its own. -/
  | whole
  /-- Between the brackets of a name of the `typing` module. -/
  | argument
  /-- Between the brackets of a class, or beside a bar. -/
  | item
  deriving DecidableEq, Repr

namespace Catalog

variable (cat : Catalog)

/-- The qualified name of a class statement, followed by the labels of its arguments. -/
def nameWith (id : ClassId) (labels : List String) : String :=
  if labels.isEmpty then (cat.info id).qualname
  else (cat.info id).name ++ "[" ++ joinWith ", " labels ++ "]"

/-- The label of something that is shown by the name of its class. -/
def kindLabel (t : TypeExpr) : String :=
  match t with
  | .member id _ _ | .object _ id _ => (cat.info id).qualname
  | t => t.writtenKind?.getD ""

mutual

/-- The text of a value of a literal inside the name of a generic model. -/
def valueLabel : TypeExpr → String
  | .constant c => c.display
  | t => label t

/-- The short text of a type expression inside the name of a generic model. -/
def label : TypeExpr → String
  | .cls id args => cat.nameWith id (labels args)
  | .form .keywordOnly => "_KW_ONLY_TYPE"
  | .form f => f.name
  | .typingName a => a.name
  | .subscript (.typingName .callable) args | .subscript (.direct (.builtin .abcCallable)) args
  | .subscript (.flat (.builtin .abcCallable)) args =>
    match args, labels args with
    | [.constant .ellipsis, _], texts => "Callable[" ++ joinWith ", " texts ++ "]"
    | _, texts => "Callable[list, " ++ texts.getLastD "" ++ "]"
  | .subscript head args =>
    let name := match head with
      | .direct id | .flat id => (cat.info id).qualname
      | .typingName a => a.name
      | .generic id => (cat.info id).name
      | .form f => f.name
    name ++ "[" ++ joinWith ", " (labels args) ++ "]"
  | .literal values => "Literal[" ++ joinWith ", " (valueLabels values) ++ "]"
  | .union _ members => "Union[" ++ joinWith ", " (labels members) ++ "]"
  | .annotated inner metadata =>
    "Annotated[" ++ joinWith ", " (label inner :: labels metadata) ++ "]"
  | .unpacked inner => label inner
  | .forwardRef s none _ => "ForwardRef(" ++ Text.quoted s ++ ")"
  | .forwardRef s (some m) _ =>
    "ForwardRef(" ++ Text.quoted s ++ ", module=" ++ Text.quoted m ++ ")"
  | .typeVar v => "~" ++ v.name
  | .function name => name
  | .constant .ellipsis => "..."
  | t => cat.kindLabel t

/-- The short texts of some type expressions. -/
def labels : List TypeExpr → List String
  | [] => []
  | t :: ts => label t :: labels ts

/-- The texts of some values of a literal inside the name of a generic model. -/
def valueLabels : List TypeExpr → List String
  | [] => []
  | t :: ts => valueLabel t :: valueLabels ts

end

/-- The labels of the arguments in the name of a generic model: a text is its own label. -/
def argumentLabels (args : List TypeExpr) : List String :=
  args.map fun
    | .constant (.string s) => s
    | t => cat.label t

/-- The name of a class, with the names of the classes it was declared in. -/
def qualnameOf (c : ClassRef) : String := cat.nameWith c.id (cat.argumentLabels c.args)

/-- The name in the class's own statement, with the labels of its arguments. -/
def nameOf (c : ClassRef) : String :=
  if c.args.isEmpty then (cat.info c.id).name else cat.qualnameOf c

/-- A class on its own. Classes of the `builtins` module, and those that name no module,
show their bare name. -/
def displayAlone (c : ClassRef) : String :=
  if c = .builtin .typingAny then "typing.Any"
  else if cat.isEnumeration c then
    (if cat.derives c .flag then "<flag '" else "<enum '") ++ cat.nameOf c ++ "'>"
  else match cat.moduleOf c with
    | none => "<class '" ++ cat.nameOf c ++ "'>"
    | some m =>
      if m = "builtins" then "<class '" ++ cat.nameOf c ++ "'>"
      else "<class '" ++ m ++ "." ++ cat.qualnameOf c ++ "'>"

/-- A class at a place. -/
def displayClass (place : Place) (c : ClassRef) : String :=
  match place, cat.moduleOf c with
  | .whole, _ => cat.displayAlone c
  | .item, none => cat.displayAlone c
  | .argument, none => "None." ++ cat.qualnameOf c
  | _, some m => if m = "builtins" then cat.qualnameOf c else m ++ "." ++ cat.qualnameOf c

/-- A class in the text of one of its instances. -/
def displayInstanceClass (c : ClassRef) : String :=
  match cat.moduleOf c with
  | some m => m ++ "." ++ cat.qualnameOf c
  | none => cat.qualnameOf c

/-- The names of the fields that an instance of a class shows, if it shows any, after the name of
the class. -/
def shownFields? (id : ClassId) : Option (String × List String) :=
  let c : ClassRef := ⟨id, []⟩
  match (cat.mro c).findSome? fun d => (cat.info d.id).tupleFields with
  | some fields => some (cat.nameOf c, fields.map Prod.fst)
  | none => (cat.dataclassFields? c).map fun fields =>
    (cat.qualnameOf c, (fields.filter (·.role = .stored)).map DataField.name)

/-- The names of the fields that a member of an enumeration that was made a dataclass shows, if each
of them is a name of that member: its fields are its own attributes. -/
def shownNames? (id : ClassId) (name : String) : Option (List String) := do
  let info := cat.info id
  let fields ← info.dataFields
  let names := (fields.filter (·.role = .stored)).map DataField.name
  let own ← info.attributes.lookup name
  if names.all fun field => info.attributes.lookup field = some own then some names else none

mutual

/-- The text of a type expression at a place. -/
def displayAt (place : Place) : TypeExpr → String
  | .cls id args => cat.displayClass place ⟨id, args⟩
  | .form f => f.display
  | .typingName a => "typing." ++ a.name
  | .subscript (.typingName .callable) args =>
    displayCallable "typing.Callable" args (displayAll .argument args)
  | .subscript (.direct (.builtin .abcCallable)) args =>
    displayCallable "collections.abc.Callable" args (displayAll .argument args)
  | .subscript (.direct id) args | .subscript (.flat id) args =>
    bracketed (cat.displayClass .item ⟨id, []⟩) (displayAll .item args)
  | .subscript (.typingName a) args => bracketed ("typing." ++ a.name) (displayAll .argument args)
  | .subscript (.generic id) args =>
    bracketed (cat.displayClass .argument ⟨id, []⟩) (displayAll .argument args)
  | .subscript (.form .unpack) args => "*" ++ joinWith "" (displayAll .whole args)
  | .subscript (.form f) args => bracketed f.display (displayAll .argument args)
  | .literal values => bracketed "typing.Literal" (displayAll .argument values)
  | .union .named members =>
    match members, displayAll .argument members with
    | [a, b], [x, y] =>
      -- Of two members the one beside `None` is shown as optional, on whichever side it stands.
      if a = .noneType then "typing.Optional[" ++ y ++ "]"
      else if b = .noneType then "typing.Optional[" ++ x ++ "]"
      else "typing.Union[" ++ x ++ ", " ++ y ++ "]"
    | _, texts => bracketed "typing.Union" texts
  | .union .bars members => joinWith " | " (displayBars members)
  | .annotated inner metadata =>
    bracketed "typing.Annotated" (displayAt .argument inner :: displayAll .whole metadata)
  | .initVar _ (.cls id args) => "dataclasses.InitVar[" ++ cat.nameOf ⟨id, args⟩ ++ "]"
  | .initVar _ inner => "dataclasses.InitVar[" ++ displayAt .whole inner ++ "]"
  | .unpacked inner => "*" ++ displayAt .whole inner
  | .forwardRef s none _ => "ForwardRef(" ++ Text.quoted s ++ ")"
  | .forwardRef s (some m) _ =>
    "ForwardRef(" ++ Text.quoted s ++ ", module=" ++ Text.quoted m ++ ")"
  | .typeVar v => "~" ++ v.name
  | .newType v => v.module ++ "." ++ v.name
  | .constant .ellipsis => if place = .whole then "Ellipsis" else "..."
  | .constant c => c.display
  | .group .tuple items => parenthesized (displayAll .whole items)
  | .group .list items => "[" ++ joinWith ", " (displayAll .whole items) ++ "]"
  | .group .set items =>
    if items.isEmpty then "set()" else braced (displayAll .whole items)
  | .group .dict items => braced (displayEntries items)
  | .member id name value =>
    match cat.shownNames? id name with
    | some names =>
      let shown := names.map fun field => field ++ "=..."
      cat.qualnameOf ⟨id, []⟩ ++ "(" ++ joinWith ", " shown ++ ")"
    | none =>
      "<" ++ cat.nameOf ⟨id, []⟩ ++ (if name = "" then "" else "." ++ name) ++ ": " ++
        displayAt .whole value ++ ">"
  | .description _ text => "Description(" ++ Text.quoted text ++ ")"
  | .fieldReader n =>
    "_tuplegetter(" ++ toString n ++ ", 'Alias for field number " ++ toString n ++ "')"
  | .function name =>
    if place = .item then name else "<built-in function " ++ name ++ ">"
  | .closure _ => "<function <lambda>>"
  | .method (.cls id _) name =>
    let isSlot := Builtin.isSlot name || (Builtin.operators.lookup name).isSome
    (if isSlot then "<slot wrapper " else "<method ") ++ Text.quoted name ++ " of " ++
      Text.quoted (cat.info id).name ++ " objects>"
  | .method owner name =>
    "<built-in method " ++ name ++ " of " ++ displayAt .whole owner ++ " object>"
  | .module name => "<module '" ++ name ++ "'>"
  | .object _ (.builtin .slice) bounds => "slice" ++ parenthesized (displayAll .whole bounds)
  | .object _ (.builtin .range) [first, last, step] =>
    "range(" ++ displayAt .whole first ++ ", " ++ displayAt .whole last ++
      (if step = .constant (.int 1) then "" else ", " ++ displayAt .whole step) ++ ")"
  | .object _ (.builtin .date) parts =>
    "datetime.date(" ++ joinWith ", " (displayAll .whole parts) ++ ")"
  | .object _ (.builtin .simpleNamespace) [.group .dict entries] =>
    "namespace(" ++ joinWith ", " (displayNamed entries) ++ ")"
  | .object _ (.builtin .time) [hour] =>
    "datetime.time(" ++ displayAt .whole hour ++ ", 0)"
  | .object _ (.builtin .timedelta) [days] =>
    "datetime.timedelta(" ++ (if days = .constant (.int 0) then "" else "days=") ++
      displayAt .whole days ++ ")"
  | .object _ (.builtin .ipv4Address) [.constant (.int n)] =>
    "IPv4Address(" ++ Text.quoted (Text.Address.displayOctets n.toNat) ++ ")"
  | .object _ (.builtin .orderedDict) [.group .dict items] =>
    "OrderedDict(" ++ (if items.isEmpty then "" else
      "[" ++ joinWith ", " (displayAll .whole items) ++ "]") ++ ")"
  | .object _ (.builtin .defaultDict) [t] => "defaultdict(None, " ++ displayAt .whole t ++ ")"
  | .object _ (.builtin b) [.group g items] =>
    b.name ++ "(" ++ (if items.isEmpty && [Builtin.frozenset, .counter].contains b then "" else
      displayAt .whole (.group g items)) ++ ")"
  | .object _ (.builtin .bytearray) [t] => "bytearray(" ++ displayAt .whole t ++ ")"
  | .object (some _) (.builtin (.other name)) values =>
    name ++ "(" ++ joinWith ", " (displayAll .whole values) ++ ")"
  | .object _ id values =>
    match cat.shownFields? id with
    | some (name, fields) =>
      let shown := (fields.zip (displayAll .whole values)).map fun (f, v) => f ++ "=" ++ v
      name ++ "(" ++ joinWith ", " shown ++ ")"
    | none => "<" ++ cat.displayInstanceClass ⟨id, []⟩ ++ " object>"

/-- The texts of some type expressions at a place. -/
def displayAll (place : Place) : List TypeExpr → List String
  | [] => []
  | t :: ts => displayAt place t :: displayAll place ts

/-- The texts of the members of a union written with bars. -/
def displayBars : List TypeExpr → List String
  | [] => []
  | t :: ts =>
    (match t with
      | .cls (.builtin .noneType) [] => "None"
      | t => displayAt .item t) :: displayBars ts

/-- The texts of some entries whose keys are names. -/
def displayNamed : List TypeExpr → List String
  | [] => []
  | .group .tuple [.constant (.string name), value] :: ts =>
    (name ++ "=" ++ displayAt .whole value) :: displayNamed ts
  | _ :: ts => displayNamed ts

/-- The texts of the entries of a dictionary. -/
def displayEntries : List TypeExpr → List String
  | [] => []
  | .group .tuple [key, value] :: ts =>
    (displayAt .whole key ++ ": " ++ displayAt .whole value) :: displayEntries ts
  | _ :: ts => displayEntries ts

/-- The text of a callable by the texts of its arguments. -/
def displayCallable (head : String) (args : List TypeExpr) (texts : List String) : String :=
  match args with
  | [ps, _] =>
    if ps.isParameterList then bracketed head texts
    else head ++ "[[" ++ joinWith ", " texts.dropLast ++ "], " ++ texts.getLastD "" ++ "]"
  | _ => head ++ "[[" ++ joinWith ", " texts.dropLast ++ "], " ++ texts.getLastD "" ++ "]"

end

/-- The text of a type expression on its own. -/
def display (t : TypeExpr) : String := cat.displayAt .whole t

/-- The text of a type expression in a message that has no room for a longer one. -/
def displayShort (t : TypeExpr) : String :=
  String.ofList ((cat.display t).toList.take 100)

/-- The name of the kind of a value, as messages mention it. -/
def kindName (t : TypeExpr) : String :=
  match t with
  | .cls id _ => (cat.info id).metaclass.name
  | .object _ (.builtin b) _ => b.shownName
  | .member id _ _ | .object _ id _ => (cat.info id).name
  | t => t.writtenKind?.getD ""

/-- The name of a type expression, if it has one. -/
def nameOf? (t : TypeExpr) : Option String :=
  match t with
  | .cls id args => some (cat.nameOf ⟨id, args⟩)
  | .form .keywordOnly => none
  | .form f => some f.name
  | .typingName a | .subscript (.typingName a) _ => some a.name
  | .subscript (.direct id) _ | .subscript (.flat id) _ | .subscript (.generic id) _ =>
    some (cat.info id).name
  | .unpacked (.subscript (.direct id) _) => some (cat.info id).name
  | .subscript (.form f) _ => some f.name
  | .literal _ => some "Literal"
  | .union .named members =>
    some (if members.length = 2 ∧ .noneType ∈ members then "Optional" else "Union")
  | .annotated _ _ => some "Annotated"
  | .typeVar v | .newType v => some v.name
  | .function name | .module name | .method _ name => some name
  | .closure _ => some "<lambda>"
  | _ => none

/-- The qualified name of a type expression, if it has one. -/
def qualnameOf? (t : TypeExpr) : Option String :=
  match t with
  | .cls id args => some (cat.qualnameOf ⟨id, args⟩)
  | .subscript (.direct id) _ | .subscript (.flat id) _ | .unpacked (.subscript (.direct id) _) =>
    some (cat.info id).qualname
  | .typeVar _ | .module _ => none
  | t => cat.nameOf? t

/-- The module of a type expression, if it has one. -/
def moduleOf? (t : TypeExpr) : Option String :=
  match t with
  | .cls id args => cat.moduleOf ⟨id, args⟩
  | .subscript (.direct id) _ | .subscript (.flat id) _ | .subscript (.generic id) _
  | .unpacked (.subscript (.direct id) _) | .member id _ _ | .object _ id _ => (cat.info id).module
  | .form f => some f.moduleName
  | .subscript (.form f) _ => some f.moduleName
  | .union .bars _ => some "types"
  | .initVar _ _ => some "dataclasses"
  | .typeVar v | .newType v => some v.module
  | .description _ _ => some Builtin.description.moduleName
  | .function _ => some "builtins"
  | .constant _ | .group _ _ | .fieldReader _ | .module _ | .closure _ | .method _ _ => none
  | _ => some "typing"

/-- The qualified name with its module: what identifiers are derived from. Where a part is
missing or empty, the next best name stands in. -/
def qualifiedName (t : TypeExpr) : String :=
  let present (s : Option String) := s.filter (· ≠ "")
  let name := (present (cat.qualnameOf? t) <|> present (cat.nameOf? t)).getD (cat.display t)
  match present (cat.moduleOf? t) with
  | some m => m ++ "." ++ name
  | none => name

end Catalog

end TypeSchema
