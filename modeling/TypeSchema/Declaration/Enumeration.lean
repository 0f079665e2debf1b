import TypeSchema.Declaration.Error
import TypeSchema.Evaluation.Call
/-!
# Members of enumerations

The body of an enumeration binds names to values. Most of these names become *members*. Private and
reserved names stay what they are, some reserved names say something of the others, and names that
are to be ignored are dropped.

An enumeration that is derived from a data type has values of that type: the value of a member is
converted to it. A member whose value an earlier member has is another name of that member. An
enumeration of flags lists only the members whose value is a single bit.
-/

namespace TypeSchema

/-! ## The names in the body -/

/-- What the body of an enumeration has bound so far. -/
structure EnumerationBody where
  /-- The names that become members. -/
  members : List String
  /-- The names that are dropped in the end. -/
  ignored : List String
  /-- The order that the members are said to have. -/
  order : Option TypeExpr
  /-- Every name with its value. -/
  bindings : List (String × TypeExpr)
  deriving Inhabited, Repr

namespace EnumerationBody

/-- The body in which nothing was bound. -/
def empty : EnumerationBody := ⟨[], [], none, []⟩

/-- Whether a name stands between `count` underscores on each side. -/
def isFramed (count : Nat) (name : String) : Bool :=
  let cs := name.toList
  let frame := List.replicate count '_'
  2 * count < cs.length && frame.isPrefixOf cs && frame.isPrefixOf cs.reverse &&
    cs[count]? != some '_' && cs.reverse[count]? != some '_'

/-- Whether a name is private to a class. -/
def isPrivateTo (className name : String) : Bool :=
  let start := "_" ++ className ++ "__"
  name.startsWith start && start.length < name.length && !name.endsWith "__"

/-- The reserved names that an enumeration may bind. -/
def settings : List String :=
  ["_order_", "_generate_next_value_", "_numeric_repr_", "_missing_", "_ignore_",
   "_iter_member_", "_iter_member_by_value_", "_iter_member_by_def_"]

/-- The names that a text lists. -/
def listedNames (text : String) : List String :=
  ((Text.splitAt (fun c => c = ',' ∨ Text.isBlank c) text.toList).filter (· ≠ [])).map
    String.ofList

/-- The same body with a name bound. -/
def put (body : EnumerationBody) (name : String) (value : TypeExpr) : EnumerationBody :=
  { body with bindings := OrderedMap.put name value body.bindings }

end EnumerationBody

namespace Catalog

variable (cat : Catalog)

/-- The names that are to be ignored, as they are given. -/
def ignoredNames (value : TypeExpr) : Except DeclareError (List String) :=
  match value.asText? with
  | some text => .ok (EnumerationBody.listedNames text)
  | none => do
    let items ← (Eval.value (cat.itemsOf value) cat).mapError .evaluation
    return items.filterMap TypeExpr.asText?

/-- Bind a name in the body of an enumeration. -/
def bindInEnumeration (className : String) (body : EnumerationBody) (name : String)
    (value : TypeExpr) : Except DeclareError EnumerationBody :=
  if EnumerationBody.isPrivateTo className name then .ok (body.put name value)
  else if EnumerationBody.isFramed 1 name then
    if name = "_order_" then .ok { body with order := some value }
    else if name = "_ignore_" then do
      let names ← cat.ignoredNames value
      let late := body.members.filter names.contains
      if late.isEmpty then return { body with ignored := names }
      else throw (.body (.ignoredTooLate late))
    else if EnumerationBody.settings.contains name then .ok (body.put name value)
    else .error (.body (.reservedName name))
  else if EnumerationBody.isFramed 2 name then
    if name = "__order__" then .ok { body with order := some value }
    else .ok (body.put name value)
  else match body.bindings.lookup name with
    | some earlier =>
      if body.ignored.contains name then .ok (body.put name value)
      else .error (.body (.repeatedMember name (cat.display earlier)))
    | none =>
      let body := if body.ignored.contains name then body
        else { body with members := body.members ++ [name] }
      .ok (body.put name value)

/-! ## Data types -/

/-- Whether a class makes its instances by itself. -/
def makesInstances (c : ClassRef) : Bool :=
  match c.id with
  | .builtin b => b.makesInstances
  | .declared _ =>
    let info := cat.info c.id
    info.tupleFields.isSome || info.dataFields.isSome

/-- The first class of an order that is, or is derived in that order from, one that makes its
instances. -/
def dataTypeIn (candidate : Option ClassRef) : List ClassRef → Option ClassRef
  | [] => none
  | c :: cs =>
    if cat.makesInstances c then some (candidate.getD c)
    else dataTypeIn (candidate <|> some c) cs

/-- The data type that a class is derived from, if it is. -/
def dataType? (c : ClassRef) : Option ClassRef :=
  cat.dataTypeIn none ((cat.mro c).filter fun d =>
    d ≠ .builtin .object && !cat.isEnumeration d)

/-- Check what an enumeration is derived from; it has the data type that is returned. -/
def checkEnumeration (name : String) (bases : List ClassRef) :
    Except BaseFault (Option ClassRef) := do
  let extended := bases.flatMap fun b => (cat.mro b).filter fun d => (cat.info d.id).members ≠ []
  match extended with
  | d :: _ => throw (.extended name (cat.display d.toExpr))
  | [] => pure ()
  if !(bases.getLast?.any fun b => cat.metaclassOf b = .enumeration) then
    throw .enumerationNotLast
  match (bases.filterMap cat.dataType?).eraseDups with
  | [] => return none
  | [c] => return some c
  | several => throw (.dataTypes name (several.map fun c => cat.display c.toExpr))

/-- What the class that makes the instances of a data type makes of the value of a member. -/
def makeMember (dataType : ClassRef) (value : TypeExpr) : Eval TypeExpr :=
  let arguments : Arguments := ⟨[value], []⟩
  if (cat.mro dataType).any fun d => (cat.info d.id).tupleFields.isSome then
    cat.makeInstance dataType arguments
  else match cat.instanceMaker? dataType with
    | some .tuple =>
      if dataType = .builtin .tuple then return .group .tuple [value]
      else cat.makeBuiltin .tuple arguments
    | some .uuid => Eval.refuse (.argumentText "UUID objects are immutable")
    | some .path | some .purePath =>
      if value.asText?.isSome then throw (.missingAttribute none "_flavour")
      else Eval.refuse (.argumentText
        ("expected str, bytes or os.PathLike object, not " ++ cat.kindName value))
    | some .type => Eval.refuse (.argumentText "type.__new__() takes exactly 3 arguments (1 given)")
    | some b => cat.makeBuiltin b arguments
    | none => return value

/-- The value of a member as a value of the data type. The fields of a dataclass are filled in after
the instance was made. -/
def convertMember (isText : Bool) (dataType : ClassRef) (value : TypeExpr) : Eval TypeExpr := do
  if isText then
    if value.asText?.isSome then return value else Eval.refuse (.notAText (cat.display value))
  else
    let made ← cat.makeMember dataType value
    if (cat.dataclassFields? dataType).isSome then cat.makeInstance dataType ⟨[value], []⟩
    else return made

/-! ## Members -/

/-- The members of an enumeration that is being made. -/
structure MemberTable where
  /-- Every name of a member, with the member. -/
  members : List (String × TypeExpr)
  /-- The names of the members that are listed. -/
  names : List String
  deriving Inhabited, Repr

/-- Whether a value is a single bit. -/
def isSingleBit (value : TypeExpr) : Eval Bool :=
  match value with
  | .constant c =>
    match c.number?, c.asInt? with
    | _, some n => return n ≠ 0 && Number.land n (n - 1) = 0
    | some _, none => refused c "&=" c.className
    | none, none =>
      match c with
      | .decimal _ => refused c "&=" c.className
      | c => refused c "-" "int"
  | value => Eval.refuse (.operands "-" (cat.kindName value) "int")
where
  /-- The fault of a value without bits; nothing has no bits. -/
  refused (c : Constant) (sign other : String) : Eval Bool :=
    if c.same (.int 0) then return false
    else Eval.refuse (.operands sign c.className other)

/-- The member of a table with a value. A number that signals is not compared. -/
def memberWith? (table : MemberTable) (value : TypeExpr) : Eval (Option TypeExpr) := do
  let signals := match value with
    | .constant (.decimal d) => d.isSignaling
    | _ => false
  if signals && !table.members.isEmpty then throw (.decimal false)
  return (table.members.map Prod.snd).find? fun
    | .member _ _ v => v.same value
    | _ => false

/-- Add a member with a converted value. -/
def addMember (id : ClassId) (areFlags : Bool) (table : MemberTable) (name : String)
    (value : TypeExpr) : Eval MemberTable := do
  match ← memberWith? table value with
  | some t => return { table with members := table.members ++ [(name, t)] }
  | none =>
    let isListed ← if areFlags then cat.isSingleBit value else pure true
    return {
      members := table.members ++ [(name, .member id name value)]
      names := if isListed then table.names ++ [name] else table.names }

/-- The attributes of an enumeration whose body was read. -/
def EnumerationBody.attributes (body : EnumerationBody) (table : MemberTable) :
    List (String × TypeExpr) :=
  (body.bindings.filter fun (name, _) => !body.ignored.contains name).map fun (name, value) =>
    (name, (table.members.lookup name).getD value)

/-- The members that an enumeration makes of its body. Its last base makes them, which takes nothing
but texts if it is an enumeration of texts. -/
def enumerationMembers (id : ClassId) (bases mro : List ClassRef) (dataType : Option ClassRef)
    (body : EnumerationBody) : Eval MemberTable := do
  let kept := body.bindings.filter fun (name, _) => !body.ignored.contains name
  let areFlags := mro.contains (.builtin .flag)
  let areTexts := bases.getLast?.any fun b => (cat.mro b).contains (.builtin .strEnum)
  kept.foldlM (fun table (name, value) => do
    if !body.members.contains name then return table
    let value ← match dataType with
      | some d => cat.convertMember areTexts d value
      | none => pure value
    cat.addMember id areFlags table name value) ⟨[], []⟩

/-- The names in the order that members are said to have, without those that are no listed members: of
an enumeration of flags first those that are no single bits, and then other names of members. -/
def orderedNames (areFlags : Bool) (table : MemberTable) (names : List TypeExpr) :
    Eval (List TypeExpr) := do
  let memberOf (t : TypeExpr) : Option TypeExpr :=
    t.asText?.bind fun name => table.members.lookup name
  match TypeExpr.changingPartOf? names with
  | some part => Eval.refuse (.unhashable (cat.kindName part))
  | none => pure ()
  let counts (t : TypeExpr) : Eval Bool :=
    match memberOf t with
    | some (.member _ _ value) => cat.isSingleBit value
    | _ => return true
  let names ← if areFlags then names.filterM counts else pure names
  return names.filter fun t =>
    (memberOf t).isNone || (t.asText?.any table.names.contains)

/-- Check the order that the members of an enumeration are said to have. Nothing says nothing. -/
def checkMemberOrder (areFlags : Bool) (table : MemberTable) (order : Option TypeExpr) :
    Except DeclareError Unit := do
  let some order := order | return
  let order : TypeExpr := match order.asText? with
    | some text => .group .list ((EnumerationBody.listedNames text).map .ofText)
    | none => order
  if !cat.isTrue order then return
  let ordered : Eval (List TypeExpr) := do
    cat.orderedNames areFlags table (← cat.itemsOf order)
  let expected : TypeExpr :=
    .group .list (← (Eval.value ordered cat).mapError DeclareError.evaluation)
  if !expected.same (.group .list (table.names.map .ofText)) then
    throw (.body (.memberOrder table.names (cat.display expected)))

end Catalog

end TypeSchema
