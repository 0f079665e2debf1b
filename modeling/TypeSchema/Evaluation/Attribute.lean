import TypeSchema.Evaluation.Kind
import TypeSchema.Evaluation.Parameters
import TypeSchema.Typing.Methods
/-!
# Attributes

What `value.name` means. A class is searched together with its ancestors; an expression with
arguments passes the question on to the class before its brackets; a module holds what it
holds. Besides, most values know their own name.
-/

namespace TypeSchema

/-- What a built-in name refers to. -/
def BuiltinName.toExpr : BuiltinName → TypeExpr
  | .cls b => .builtin b
  | .typingName a => .typingName a
  | .form f => .form f
  | .function name => .function name
  | .ellipsis => .constant .ellipsis
  | .notImplemented => .constant .notImplemented

namespace Catalog

variable (cat : Catalog)

/-- A text, or nothing. -/
def ofText? : Option String → TypeExpr
  | some s => .constant (.string s)
  | none => .constant .none

/-- Whether an attribute is one that every class answers by itself. -/
def isReserved (name : String) : Bool :=
  name.startsWith "__" && name.endsWith "__" && 4 < name.length

/-- An object of a built-in class that holds some contents. -/
def holding (b : Builtin) (contents : TypeExpr) : TypeExpr := .object none (.builtin b) [contents]

/-- A dictionary by its keys, which are texts. -/
def dictionary (entries : List (String × TypeExpr)) : TypeExpr :=
  .group .dict (entries.map fun (name, t) => .group .tuple [.constant (.string name), t])

/-- A dictionary that cannot be changed, by its keys. -/
def proxy (entries : List (String × TypeExpr)) : TypeExpr :=
  holding (.other "mappingproxy") (dictionary entries)

/-- Some texts as the items of a grouping. -/
def texts (names : List String) : List TypeExpr := names.map fun n => .constant (.string n)

/-- The classes that a class was derived from directly. One that names none has all objects for an
ancestor. -/
def parentsOf (c : ClassRef) : List ClassRef :=
  if !c.args.isEmpty then [⟨c.id, []⟩]
  else match c.id, (cat.info c.id).bases with
    | .builtin b, _ => b.bases.map ClassRef.builtin
    | .declared _, [] => [.builtin .object]
    | .declared _, bases => bases

/-- Whether an attribute of an enumeration is one of its members. -/
def isMemberOf (id : ClassId) : TypeExpr → Bool
  | .member owner _ _ => owner = id
  | _ => false

/-- What an enumeration answers by itself. -/
def enumerationFact? (c : ClassRef) (name : String) : Option TypeExpr :=
  let members := (cat.info c.id).attributes.filter fun (_, t) => isMemberOf c.id t
  match name with
  | "__members__" => some (proxy members)
  | "_member_map_" => some (dictionary members)
  | "_member_names_" => some (.group .list (texts (cat.info c.id).members))
  | "_value2member_map_" =>
    let distinct := members.foldl (fun known (_, t) => if known.contains t then known else known ++ [t]) []
    some (.group .dict (distinct.filterMap fun
      | .member id own value => some (.group .tuple [value, .member id own value])
      | _ => none))
  | _ => none

/-- What a typed dictionary answers by itself. -/
def keyFact? (c : ClassRef) (name : String) : Option TypeExpr :=
  (cat.info c.id).keys.bind fun table =>
    match name with
    | "__total__" => some (.constant (.bool table.isTotal))
    | "__required_keys__" => some (holding .frozenset (.group .set (texts table.required)))
    | "__optional_keys__" => some (holding .frozenset (.group .set (texts table.optional)))
    | _ => none

/-- The names that the body of a class holds, with those that every class has. -/
def bodyEntries (c : ClassRef) : List (String × TypeExpr) :=
  let info := cat.info c.id
  [("__module__", ofText? (cat.moduleOf c))] ++ info.attributes ++
    (if info.annotations.isEmpty then [] else
      [("__annotations__", dictionary info.annotations)]) ++
    [("__doc__", .constant .none)]

/-- A field of a dataclass as a value. -/
def fieldObject (f : DataField) : TypeExpr :=
  .object none (.builtin (.other "Field")) [.constant (.string f.name), f.written]

/-- What a class answers by itself. -/
def classFact? (c : ClassRef) (name : String) : Option TypeExpr :=
  match name with
  | "__bases__" => some (.group .tuple ((cat.parentsOf c).map ClassRef.toExpr))
  | "__base__" => some (((cat.parentsOf c).head?.map ClassRef.toExpr).getD (.constant .none))
  | "__class__" => some (cat.classOf c.toExpr)
  | "__dict__" => some (proxy (cat.bodyEntries c))
  | "__dataclass_fields__" =>
    (cat.dataclassFields? c).map fun fields =>
      dictionary (fields.map fun f => (f.name, fieldObject f))
  | "__match_args__" => (cat.info c.id).dataFields.map fun _ => .group .tuple []
  | "__parameters__" =>
    if cat.derives c .generic then
      some (.group .tuple ((if c.args.isEmpty then (cat.info c.id).params else []).map .typeVar))
    else none
  | "__name__" => some (ofText? (cat.nameOf c))
  | "__qualname__" => some (ofText? (cat.qualnameOf c))
  | "__module__" => some (ofText? (cat.moduleOf c))
  | "__doc__" => some (.constant .none)
  | "__mro__" => some (.group .tuple ((cat.mro c).map ClassRef.toExpr))
  | "__annotations__" =>
    some (dictionary (cat.info c.id).annotations)
  | name =>
    if cat.isEnumeration c then cat.enumerationFact? c name
    else if cat.isTypedDict c then cat.keyFact? c name
    else none

/-- The built-in class among a class and its ancestors that has a method, and the method. -/
def methodFrom? (c : ClassRef) (name : String) : Option (Builtin × MethodShape) :=
  (cat.mro c).findSome? fun d =>
    match d.id with
    | .builtin b => (b.method? name).map fun shape => (b, shape)
    | .declared _ => none

/-- Whether a class answers brackets by a method of its own. -/
def takesArguments (c : ClassRef) : Bool :=
  match c.id with
  | .builtin b => b.keepsArguments || b = .generic
  | .declared _ => (cat.mro c).any fun d => d = .builtin .generic

/-- Whether the instances of a class do as all objects do. -/
def isPlain (c : ClassRef) : Bool :=
  (cat.mro c).all fun d =>
    match d.id with
    | .builtin b => b = .object || b = .generic
    | .declared _ =>
      (cat.info d.id).dataFields.isNone && (cat.info d.id).metaclass = .plain

/-- The method of a name that a class has: one for its instances, or its own. -/
def methodOf? (c : ClassRef) (name : String) : Option TypeExpr :=
  match cat.methodFrom? c name with
  | some (b, shape) => some (.method (if shape.isOfClass then c.toExpr else .builtin b) name)
  | none =>
    if (Builtin.type.method? name).isSome then some (.method c.toExpr name)
    else if name = "_make" && (cat.info c.id).tupleFields.isSome ||
        name = "__class_getitem__" && cat.takesArguments c then some (.method c.toExpr name)
    else if name = "__hash__" && !cat.hasHash c then some (.constant .none)
    else if Builtin.isSlot name && cat.isPlain c then some (.method (.builtin .object) name)
    else none

/-- How a class is mentioned that lacks an attribute. Models and enumerations look up attributes by
themselves, and mention the attribute alone. -/
def classOwner? (c : ClassRef) : Option String :=
  if cat.isModel c || cat.isEnumeration c then none
  else some ("type object " ++ Text.quoted (cat.nameOf c))

/-- An attribute of a class. -/
def classAttribute (c : ClassRef) (name : String) : Eval TypeExpr :=
  match cat.attribute? c name <|> cat.classFact? c name with
  | some t => return t
  | none =>
    match cat.methodOf? c name with
    | some method => return method
    | none => throw (.missingAttribute (cat.classOwner? c) name)

/-- What a module holds under a name. -/
def moduleMember? (module name : String) : Option TypeExpr :=
  match BuiltinName.inModule? module name with
  | some n => some n.toExpr
  | none =>
    match BuiltinName.submodule? module name with
    | some m => some (.module m)
    | none =>
      match module, name with
      | m, "__name__" => some (ofText? m)
      | "typing", "TYPE_CHECKING" => some (.constant (.bool false))
      | "datetime", "MINYEAR" => some (.constant (.int 1))
      | "datetime", "MAXYEAR" => some (.constant (.int 9999))
      | _, _ => none

/-- The fields of an instance by name. -/
def instanceFields (id : ClassId) (values : List TypeExpr) : List (String × TypeExpr) :=
  (((cat.shownFields? id).map Prod.snd).getD []).zip values

/-- What a subscription answers by itself. -/
def subscriptionFact? (t : TypeExpr) (name : String) : Option TypeExpr :=
  match name with
  | "__origin__" =>
    match t with
    | .annotated inner _ => some inner
    | t => t.origin?
  | "__args__" =>
    match t with
    | .subscript _ args => some (.group .tuple args)
    | .annotated inner _ => some (.group .tuple [inner])
    | .typingName _ => none
    | t => some (.group .tuple t.arguments)
  | "__parameters__" =>
    match t with
    | .typingName _ => none
    | t => some (.group .tuple ((TypeExpr.parametersOf [t]).map .typeVar))
  | "__metadata__" =>
    match t with
    | .annotated _ metadata => some (.group .tuple metadata)
    | _ => none
  | _ => none

/-- An attribute of a name of the `typing` module, or of a subscription of one, that passes the
question on to `ask`. -/
def relayed (t : TypeExpr) (name : String) (ask : Eval TypeExpr) : Eval TypeExpr :=
  match subscriptionFact? t name with
  | some fact => return fact
  | none =>
    if name = "__name__" ∨ name = "__qualname__" then return ofText? (cat.nameOf? t)
    else if name = "__module__" then return ofText? (cat.moduleOf? t)
    -- Reserved names are never passed on.
    else if isReserved name then throw (.missingAttribute none name)
    else ask

/-- What a number answers by itself. -/
def numberFact? (c : Constant) (name : String) : Option TypeExpr :=
  match c.asInt?, c, name with
  | some n, _, "real" | some n, _, "numerator" => some (.constant (.int n))
  | some _, _, "imag" => some (.constant (.int 0))
  | some _, _, "denominator" => some (.constant (.int 1))
  | _, .float x, "real" => some (.constant (.float x))
  | _, .float _, "imag" => some (.constant (.float ⟨0⟩))
  | _, .complex x _, "real" => some (.constant (.float x))
  | _, .complex _ y, "imag" => some (.constant (.float y))
  | _, _, _ => none

/-- What a type variable answers by itself. -/
def variableFact? (name : String) : Option TypeExpr :=
  match name with
  | "__bound__" => some (.constant .none)
  | "__constraints__" => some (.group .tuple [])
  | "__covariant__" | "__contravariant__" => some (.constant (.bool false))
  | _ => none

/-- An attribute of a value that is neither a class nor stands for one. -/
def ownAttribute (t : TypeExpr) (name : String) : Eval TypeExpr :=
  let inherited : Option TypeExpr :=
    if name = "__class__" then some (cat.classOf t)
    else match cat.classOf t with
      | .cls id args =>
        let isTuple := (cat.info id).tupleFields.isSome
        if (cat.methodFrom? ⟨id, args⟩ name).isSome then some (.method t name)
        else if isTuple && (name = "_asdict" || name = "_replace") then some (.method t name)
        else none
      | _ => none
  let fact := match t, name with
    | .constant c, name => numberFact? c name
    | .method owner _, "__self__" => some owner
    | .method _ f, "__name__" => some (ofText? f)
    | .closure _, "__name__" | .closure _, "__qualname__" => some (ofText? "<lambda>")
    | .newType v, "__supertype__" => cat.supertypes.lookup v
    | .object _ (.builtin .slice) [lower, _, _], "start"
    | .object _ (.builtin .range) [lower, _, _], "start" => some lower
    | .object _ (.builtin .slice) [_, upper, _], "stop"
    | .object _ (.builtin .range) [_, upper, _], "stop" => some upper
    | .object _ (.builtin .slice) [_, _, step], "step"
    | .object _ (.builtin .range) [_, _, step], "step" => some step
    | .forwardRef _ module _, "__forward_module__" => some (ofText? module)
    | .object _ (.builtin (.other "Field")) (own :: _), "name" => some own
    | .object _ (.builtin (.other "Field")) [_, type], "type" => some type
    | .object _ (.builtin .simpleNamespace) [.group .dict entries], name =>
      entries.findSome? fun
        | .group .tuple [.constant (.string n), value] => if n = name then some value else none
        | _ => none
    | .function f, "__module__" =>
      if BuiltinName.isSpelledOut f then none else some (ofText? "builtins")
    | .typeVar v, "__name__" | .newType v, "__name__" | .newType v, "__qualname__" =>
      some (ofText? v.name)
    | .typeVar v, "__module__" | .newType v, "__module__" => some (ofText? v.module)
    | .function f, "__name__" | .function f, "__qualname__" => some (ofText? f)
    | .forwardRef text _ _, "__forward_arg__" => some (ofText? text)
    | .description _ text, "text" => some (ofText? text)
    | .union .bars _, name => subscriptionFact? t name
    | .typeVar _, name => variableFact? name
    | _, _ => none
  -- What a value knows by itself comes before what its class gives it.
  match fact <|> inherited with
  | some v => return v
  | none => throw (.missingAttribute (some (listed [cat.kindName t] ++ " object")) name)

/-- What `value.name` means. -/
def attributeOf (t : TypeExpr) (name : String) : Eval TypeExpr :=
  match t with
  | .cls id args => cat.classAttribute ⟨id, args⟩ name
  | .module m =>
    match moduleMember? m name with
    | some v => return v
    | none => throw (.missingInModule m name)
  | .typingName a => cat.relayed t name (cat.classAttribute (.builtin a.origin) name)
  | .subscript (.direct id) _ | .subscript (.flat id) _ | .unpacked (.subscript (.direct id) _) =>
    match subscriptionFact? t name with
    | some fact => return fact
    | none => cat.classAttribute ⟨id, []⟩ name
  | .subscript (.typingName a) _ =>
    cat.relayed t name (cat.classAttribute (.builtin a.origin) name)
  | .subscript (.generic id) _ => cat.relayed t name (cat.classAttribute ⟨id, []⟩ name)
  | .annotated inner _ => cat.relayed t name (attributeOf inner name)
  | .subscript (.form _) _ | .literal _ | .union .named _ =>
    cat.relayed t name (throw (.missingAttribute none name))
  | .form .keywordOnly => cat.ownAttribute t name
  | .form f =>
    if name = "__name__" ∨ name = "__qualname__" then return ofText? f.name
    else throw (.missingAttribute none name)
  | .member id own value =>
    let fact := match name with
      | "name" | "_name_" => some (ofText? own)
      | "value" | "_value_" => some value
      | name => cat.attribute? ⟨id, []⟩ name
    match fact with
    | some v => return v
    | none => cat.ownAttribute t name
  | .object _ id values =>
    match (cat.instanceFields id values).lookup name <|> cat.attribute? ⟨id, []⟩ name with
    | some v => return v
    | none => cat.ownAttribute t name
  | t => cat.ownAttribute t name

end Catalog

end TypeSchema
