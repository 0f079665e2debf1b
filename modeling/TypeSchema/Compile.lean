import TypeSchema.Catalog.Fields
import TypeSchema.Ledger
import TypeSchema.SchemaError
/-!
# Compiling types to nodes

`element` builds the node of a type expression and `object` that of a class with data
members; together they walk the types that a root type reaches. A ledger breaks cycles: a
class of the program that is met while it is under construction becomes a reference and is
marked as recursive, and one that is finished is used again as it is. Classes of the language
are built anew each time.

The recursion is bounded by the *room* that is left below the depth limit: an element at depth
`d` under the limit `m` has room `m + 1 - d`, and without room it fails. The parts of an
array or an object have one less.

A failure leaves the ledger as it is at that moment.
-/

namespace TypeSchema

/-- A compilation step: it may change the ledger, and may fail. -/
abbrev Build := ExceptT SchemaError (StateM (Ledger TypeExpr))

namespace Compile

/-- Builds a type expression that has a description and a location. -/
abbrev Element := TypeExpr → Option Json → Location → Build Node

variable (cat : Catalog)

/-- Fail for a cause at a location. -/
def fail {α : Type} (cause : Unresolvable) (location : Location) : Build α :=
  throw (.unresolvable cause location)

/-- What `Annotated` and `Optional` wrap. -/
def unwrapAt (t : TypeExpr) (location : Location) : Build (TypeExpr × Option String) :=
  match t.unwrap with
  | .ok found => pure found
  | .error cause => fail (.noAlternative cause) location

/-- The data members of a class. An undefined name is blamed on the class. What is no class has
none. -/
def fieldsOf (t : TypeExpr) : Build (List SchemaField) :=
  match t.asClass? with
  | none => return []
  | some c =>
    match cat.fieldsOf c with
    | .ok fields => return fields
    | .error (.undefinedName absence name) => fail (.undefinedName absence name) ⟨some t, none⟩
    | .error cause => throw (.unreadable cause)

/-- A description, or that of the type where there is none. -/
def withFallback (description : Option Json) (t : TypeExpr) : Option Json :=
  description <|> (cat.typeDescription? t).map .string

/-- Whether a node is a bare reference. -/
def isReference : Node → Bool
  | .reference _ => true
  | .derived _ _ base => isReference base
  | _ => false

/-- The properties of a class: its data members, built in order. -/
def properties (element : Element) (owner : TypeExpr) (fields : List SchemaField) :
    Build (List (String × Node)) :=
  fields.foldlM (fun done f => do
    let n ← element f.type f.description ⟨some owner, some f.name⟩
    return OrderedMap.put f.name n done) []

/-- What the ledger has for a class of the program that was visited before. Meeting its
reference marks the class as recursive. -/
def visited? (t : TypeExpr) : Build (Option Node) := do
  let ledger ← get
  match ledger.get? t with
  | some entry =>
    -- Classes of the language have entries as well, but each mention of one is built anew.
    if t.asClass?.any cat.isCustom then
      let current := ledger.node entry
      if isReference current then set (ledger.setRecursive t true)
      return some current
    else return none
  | none => return none

/-- Build the object node of a class and store it. -/
def newObject (element : Element) (t : TypeExpr) (description : Option Json) : Build Node := do
  let entry ← modifyGet fun ledger =>
    let (ledger, entry) := ledger.register t (cat.referenceId t)
    (entry, ledger)
  let fields ← fieldsOf cat t
  -- While the members are built the slot holds the reference: there a cycle ends.
  let properties ← properties element t fields
  let node := Node.object properties (some (properties.map Prod.fst))
    (withFallback cat description t) none
  modify fun ledger => ledger.store entry node
  return node

/-- The node with the definitions of a ledger, if it has any. -/
def attachDefinitions (node : Node) : Build Node := do
  match (← get).definitions with
  | [] => return node
  | definitions => return (node.withDefinitions? (some definitions)).getD node

/-- The node of a class with data members: what the ledger has for it, or a new object. -/
def object (element : Element) (t : TypeExpr) (description : Option Json)
    (emitDefinitions : Bool) : Build Node := do
  match ← visited? cat t with
  | some node => return node
  | none =>
    let node ← newObject cat element t description
    if emitDefinitions then attachDefinitions node else return node

/-- An array of what `items` builds. -/
def array (items : Build Node) (description : Option Json) : Build Node := do
  return .array (← items) description none

/-- The node of a type expression under the depth limit `limit`. -/
def element (limit : Int) : (room : Nat) → Element
  | 0, _, _, location => throw (.tooDeep limit location)
  | room + 1, t, given, location => do
    let (core, found) ← unwrapAt t location
    let description := given <|> found.map .string
    match core.rawClass? with
    | none => fail (.unsupported core) location
    | some c =>
      match cat.kindOf c with
      | .string => return .leaf .string (withFallback cat description c.toExpr)
      | .integer => return .leaf .integer description
      | .number => return .leaf .number description
      | .boolean => return .leaf .boolean description
      | .enumeration => return .enum (cat.memberNames c) (withFallback cat description c.toExpr)
      | .fixedArray =>
        match core.elementOfTuple? with
        | none => fail (.noSingleElement core) location
        | some item => array (element limit room item none location) description
      | .collection =>
        match core.elementOfCollection? with
        | none => fail (.noElement core) location
        | some item => array (element limit room item none location) description
      | .object => object cat (element limit room) c.toExpr description false

/-- The room of an element at a depth. -/
def roomAt (limit depth : Int) : Nat := (limit + 1 - depth).toNat

/-- The node of a type expression at a depth. -/
def elementAt (limit depth : Int) : Element := element cat limit (roomAt limit depth)

/-- The node of a class at a depth; its members are one level deeper. -/
def objectAt (limit depth : Int) (t : TypeExpr) (description : Option Json)
    (emitDefinitions : Bool) : Build Node :=
  object cat (elementAt cat limit (depth + 1)) t description emitDefinitions

/-- The root node of a type, with the definitions of its recursive classes. -/
def root (limit : Int) (t : TypeExpr) : Build Node := do
  let (core, text) ← unwrapAt t .root
  match core.rawClass? with
  | some c =>
    -- An object attaches the definitions by itself; any other root gets them here.
    if cat.isObject c then objectAt cat limit 0 c.toExpr (text.map .string) true
    else attachDefinitions (← elementAt cat limit 0 t none .root)
  | none => attachDefinitions (← elementAt cat limit 0 t none .root)

end Compile

/-- The depth limit of a compilation that names none. -/
def defaultLimit : Int := 64

namespace Catalog

/-- The root node of a type under a depth limit, which has to be positive. -/
def build (cat : Catalog) (limit : Int) (t : TypeExpr) : Except SchemaError Node :=
  if limit < 1 then .error (.nonPositiveLimit limit)
  else ((Compile.root cat limit t).run.run .empty).1

end Catalog

end TypeSchema
