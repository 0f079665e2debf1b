import TypeSchema.Console.Arguments
import TypeSchema.Console.Markup
import TypeSchema.Console.Path
import TypeSchema.Console.Screen
import TypeSchema.Document
import TypeSchema.Json.Layout
import TypeSchema.Json.MetaSchema
import TypeSchema.Target
/-!
# Commands

`Console.run` runs the program with some arguments: it returns the exit code, what is
printed, and the files that are written. A file is written only after the document is made
and shown; what comes after it is the message that names it.

Messages are printed through `Markup`. A message that cannot be printed ends the program in
the same way as a failing command, and a failure whose own message cannot be printed leaves
no line. A command prints more than is kept of it; see `lineStarts`.
-/

namespace TypeSchema.Console

/-- What a program leaves behind. -/
structure Report where
  exitCode : Nat
  /-- The files that are written, by their paths. -/
  files : List (Path × String)
  /-- The lines that are printed: headings, marks and identifiers. -/
  lines : List String
  /-- The document that is shown, if one is. -/
  document : Option Json
  /-- The rows of the table that is shown. -/
  rows : List (List String)
  deriving Inhabited, Repr

/-- Why a command fails. -/
inductive Failure where
  | target (cause : TargetError)
  | schema (cause : SchemaError)
  /-- The document is no JSON Schema. -/
  | invalid
  | path (cause : PathError)
  /-- Something that is no text stands where a table shows texts. -/
  | notShown (className : String)
  | markup (cause : Markup.Error)
  deriving Inhabited, Repr

/-- What a command has printed so far, and whether it failed. -/
abbrev Run := ExceptT Failure (StateM Report)

/-- The version line of the program. -/
def versionLine : String := "schema-forge version 0.1.0"

/-- What the lines start with that are kept; frames, rules and indented lines are not. -/
def lineStarts : List String := ["✓", "✗", "ℹ", "schema-forge", "Reference id:"]

/-- The lines of a printed text that are kept. -/
def keptLines (printed : List Char) : List String :=
  (Screen.seenLines printed).filter fun line => lineStarts.any fun start => line.startsWith start

/-- Print a text that is marked up. -/
def print (markup : String) : Run Unit :=
  match Markup.render markup.toList with
  | .ok printed => modify fun r => { r with lines := r.lines ++ keptLines printed }
  | .error cause => throw (.markup cause)

/-- Print the title of a command. -/
def heading (title : String) : Run Unit := print ("[bold cyan]" ++ title ++ "[/bold cyan]")

/-- A message after a mark of some colour. -/
def marked (color mark message : String) : String :=
  "[" ++ color ++ "]" ++ mark ++ "[/" ++ color ++ "] " ++ message

/-- Print a message of success. -/
def succeed (message : String) : Run Unit := print (marked "green" "✓" message)

/-- Print a message that tells something. -/
def inform (message : String) : Run Unit := print (marked "blue" "ℹ" message)

variable (cat : Catalog)

/-- The type that a target names. -/
def load (target : String) : Run TypeExpr :=
  match cat.load target with
  | .ok t => return t
  | .error cause => throw (.target cause)

/-- The result of a compilation. -/
def ofSchema {α : Type} : Except SchemaError α → Run α
  | .ok a => return a
  | .error cause => throw (.schema cause)

/-- The document that the options ask for, and the schema in it. -/
def documents (options : BuildOptions) (t : TypeExpr) : Run (Json × Json) := do
  let schema ← ofSchema (cat.jsonSchema options.strict options.limit t)
  let doc := if options.responseFormat then
      Catalog.envelope (cat.schemaName none t) options.strict schema
    else schema
  return (doc, schema)

/-- The `build` command, where some directories are known to exist. -/
def build (directories : List Path) (options : BuildOptions) : Run Unit := do
  heading "schema-forge - Build Schema"
  let t ← load cat options.target
  succeed ("Loaded type: " ++ cat.qualifiedName t)
  inform ("Mode: [bold]" ++ (if options.strict then "strict" else "permissive") ++ "[/bold]")
  let (doc, schema) ← documents cat options t
  if options.check then
    -- What is checked is the schema, without the envelope around it.
    if schema.isSchema then succeed "Schema is valid JSON Schema (draft 2020-12)"
    else throw .invalid
  modify fun r => { r with document := some doc }
  match options.output with
  | none => return
  | some path =>
    let path := Path.ofString path
    match path.check directories with
    | .error cause => throw (.path cause)
    | .ok () =>
      modify fun r => { r with files := r.files ++ [(path, doc.toPage)] }
      succeed ("Schema saved to: " ++ path.display)

/-- The text of a type in a table: a class by its qualified name, anything else without the
module names of `typing`. -/
def typeLabel (t : TypeExpr) : String :=
  match t.asClass? with
  | some c => cat.qualnameOf c
  | none => (cat.display t).replace "typing." ""

/-- The data members of a target. Only a class has any. -/
def fieldsOfTarget (t : TypeExpr) : Except SchemaError (List SchemaField) :=
  ((Compile.fieldsOf cat t).run.run .empty).1

/-- Whether a value counts as nothing. -/
def countsAsNothing : Json → Bool
  | .null | .bool false | .int 0 | .string "" | .array [] | .object [] => true
  | _ => false

/-- The cell of a description: empty if there is none. Only a text can be shown. -/
def descriptionCell : Option Json → Run String
  | none => return ""
  | some (.string text) => return text
  | some value =>
    if countsAsNothing value then return ""
    else throw (.notShown (Node.valueClassName value))

/-- The rows of the table of some data members. -/
def fieldRows (fields : List SchemaField) : Run (List (List String)) :=
  fields.zipIdx.mapM fun (f, i) => do
    return [toString (i + 1), f.name, typeLabel cat f.type, ← descriptionCell f.description]

/-- What a cell shows. -/
def cell (markup : String) : Run (List Char) :=
  match Markup.render markup.toList with
  | .ok printed => return printed
  | .error cause => throw (.markup cause)

/-- The columns of the table, with the width of the first. -/
def columns : List (String × Option Nat) :=
  [("#", some 4), ("Field", none), ("Type", none), ("Description", none)]

/-- What the cells of rows show; they are read column by column. -/
def readCells (rows : List (List String)) : Run (List (List (List Char))) := do
  let byColumn ← (List.range columns.length).mapM fun i =>
    rows.mapM fun row => cell (row.getD i "")
  return (List.range rows.length).map fun k => byColumn.map fun column => column.getD k []

/-- The `inspect` command. -/
def inspect (target : String) : Run Unit := do
  heading "schema-forge - Inspect Type"
  let t ← load cat target
  let fields ← ofSchema (fieldsOfTarget cat t)
  let rows ← readCells (← fieldRows cat fields)
  -- The title of the table is marked up, and can fail like its cells.
  let _ ← cell (cat.qualifiedName t)
  modify fun r => { r with rows := Screen.seenTable columns rows }
  print ("[dim]Reference id:[/dim] " ++ cat.referenceId t)

/-- The text of a failure. -/
def failureMessage : Failure → String
  | .target cause => cause.message
  | .schema cause => cat.errorMessage cause
  | .invalid => "The document is no JSON Schema"
  | .path cause => cause.message
  | .notShown className =>
    "unable to render " ++ className ++ "; a string or other renderable object is required"
  | .markup cause => cause.message

/-- Run a command from its first line to its exit code. A failure is told in a line of its own,
unless that line cannot be printed. -/
def finish (command : Run Unit) : Report :=
  let start : Report := { exitCode := 0, files := [], lines := [], document := none, rows := [] }
  match command.run.run start with
  | (.ok (), report) => report
  | (.error failure, report) =>
    let told := print (marked "red" "✗" ("Command failed: " ++ failureMessage cat failure))
    let (_, report) := told.run.run report
    -- Of what a failed command showed, only its lines are kept.
    { report with exitCode := 1, document := none, rows := [] }

/-- Run the program with some arguments, where some directories are known to exist. -/
def run (directories : List Path) (arguments : List String) : Report :=
  match Arguments.parse arguments with
  | .help => finish cat (return)
  | .version => finish cat (print versionLine)
  | .wrong => { finish cat (return) with exitCode := 2 }
  | .build options => finish cat (build cat directories options)
  | .inspect target => finish cat (inspect cat target)

end TypeSchema.Console
