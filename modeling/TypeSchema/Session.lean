import TypeSchema.Compile
import TypeSchema.Declaration
import TypeSchema.Node.Dump
import TypeSchema.Node.Outline
import TypeSchema.Node.Render
/-!
# Sessions

A session keeps one ledger and one depth limit over several steps, each of which compiles
something, looks at the ledger or changes it by hand. A failing step ends itself and not the
session: what it did to the ledger until then stays.
-/

namespace TypeSchema

/-- A step of a session. -/
inductive Step where
  | declare (decl : Decl)
  | element (type : Expression) (description : Option Json) (owner : Option Expression)
      (field : Option String) (depth : Int) (strict : Bool)
  | object (type : Expression) (description : Option Json) (emitDefinitions : Bool)
      (depth : Int) (strict : Bool)
  /-- Compile a root with a ledger of its own. -/
  | build (type : Expression) (strict : Bool)
  | register (type : Expression) (id : String)
  | store (type : Expression) (node : Node)
  | flag (type : Expression) (value : Bool)
  | node (type : Expression)
  | contains (type : Expression)
  | size
  | recursive
  deriving Inhabited, Repr

/-- What a step answers. -/
inductive Outcome where
  | nothing
  | document (doc : Json)
  | number (n : Nat)
  | truth (b : Bool)
  | numbers (ns : List Nat)
  deriving Inhabited, Repr

/-- Why a step failed. -/
inductive StepError where
  | declaration (cause : DeclareError)
  | schema (cause : SchemaError)
  /-- A type without an entry has no such member. -/
  | noEntry (member : String)
  deriving Inhabited, Repr

/-- A session. -/
structure Session where
  catalog : Catalog
  ledger : Ledger TypeExpr
  limit : Int
  deriving Inhabited, Repr

namespace Session

/-- A session in which nothing was visited. -/
def start (catalog : Catalog) (limit : Int) : Except SchemaError Session :=
  if limit < 1 then .error (.nonPositiveLimit limit)
  else .ok { catalog, ledger := .empty, limit }

/-- The text of a step's error. -/
def errorMessage (s : Session) : StepError → String
  | .declaration cause => cause.message
  | .schema cause => s.catalog.errorMessage cause
  | .noEntry member => "'NoneType' object has no attribute " ++ Text.quoted member

/-- A session step that may fail and keeps what it changed. -/
abbrev Act := ExceptT StepError (StateM Session)

/-- What a written type expression means now. -/
def typeOf (written : Expression) : Act TypeExpr := do
  let s ← get
  match s.catalog.evaluate written with
  | .ok (t, catalog) =>
    set { s with catalog }
    return t
  | .error cause => throw (.declaration (.evaluation cause))

/-- The key under which the ledger knows what a written type expression means. -/
def keyOf (written : Expression) : Act TypeExpr := do
  let t ← typeOf written
  let s ← get
  match t.changingPart? with
  | some part =>
    let fault := TypeFault.unhashable (s.catalog.kindName part)
    throw (.declaration (.evaluation (.misused fault)))
  | none =>
    -- A type that is the same as one with an entry is known under that one.
    let known := s.ledger.entries.find? fun (key, _) => key.same t
    return (known.map Prod.fst).getD t

/-- The entry of a type, which is needed for one of its members. -/
def entryOf (member : String) (t : TypeExpr) : Act Entry := do
  match (← get).ledger.get? t with
  | some entry => return entry
  | none => throw (.noEntry member)

/-- Run a compilation step on the session's ledger. -/
def compile (step : Build Node) : Act Node := do
  let s ← get
  let (result, ledger) := step.run.run s.ledger
  set { s with ledger }
  match result with
  | .ok n => return n
  | .error cause => throw (.schema cause)

/-- The document of a node. -/
def document (strict : Bool) (n : Node) : Act Outcome :=
  match n.render strict with
  | .ok doc => return .document doc
  | .error unknown => throw (.schema (.unknownKind unknown))

/-- Run a step. -/
def act : Step → Act Outcome
  | .declare decl => do
    let (result, catalog) := (← get).catalog.declare decl
    modify fun s => { s with catalog }
    match result with
    | .ok () => return .nothing
    | .error cause => throw (.declaration cause)
  | .element type description owner field depth strict => do
    let t ← typeOf type
    let owner ← owner.mapM typeOf
    let s ← get
    document strict
      (← compile (Compile.elementAt s.catalog s.limit depth t description ⟨owner, field⟩))
  | .object type description emitDefinitions depth strict => do
    let t ← keyOf type
    let s ← get
    document strict
      (← compile (Compile.objectAt s.catalog s.limit depth t description emitDefinitions))
  | .build type strict => do
    let t ← typeOf type
    let s ← get
    match s.catalog.build s.limit t with
    | .ok n => document strict n
    | .error cause => throw (.schema cause)
  | .register type id => do
    let t ← keyOf type
    let s ← get
    let (ledger, entry) := s.ledger.register t id
    set { s with ledger }
    return .number entry.slot
  | .store type n => do
    let t ← keyOf type
    let entry ← entryOf "slot" t
    modify fun s => { s with ledger := s.ledger.store entry n }
    return .nothing
  | .flag type value => do
    let t ← keyOf type
    let _ ← entryOf "recursion_detected" t
    modify fun s => { s with ledger := s.ledger.setRecursive t value }
    return .nothing
  | .node type => do
    let t ← keyOf type
    let entry ← entryOf "slot" t
    return .document ((← get).ledger.node entry).dump
  | .contains type => do
    let t ← keyOf type
    return .truth ((← get).ledger.contains t)
  | .size => return .number (← get).ledger.size
  | .recursive => return .numbers ((← get).ledger.recursiveEntries.map Entry.slot)

/-- The entries of the ledger, each with the kind of its node. Plain values have no kind. -/
def listing (s : Session) : Except MissingMember (List (Entry × String)) := do
  let entries := s.ledger.currentEntries
  return entries.zip (← Node.kinds "kind" (entries.map s.ledger.node))

/-- Run a step on a session: its answer, and the session after it. -/
def run (s : Session) (step : Step) : Except StepError Outcome × Session :=
  (act step).run.run s

end Session

end TypeSchema
