import TypeSchema.Evaluation.Arguments
import TypeSchema.Evaluation.Format
/-!
# Texts with fields

`Catalog.filledTemplate` replaces the fields of a text, which stand in braces, by the arguments that they
name: by a place, by a name, or one after the other. A field may go on to attributes and items of its
argument, and says how the value is converted and what layout it has.
-/

namespace TypeSchema

/-- How the fields of a template count their arguments. -/
structure FieldCount where
  next : Nat
  /-- Whether the places are written, once a field has decided it. -/
  isWritten : Option Bool
  deriving Inhabited, Repr

/-- The parts of a field. -/
structure TemplateField where
  path : List Char
  conversion : Option Char
  layout : List Char
  deriving Inhabited, Repr

namespace Catalog

variable (cat : Catalog)

/-- Refuse a template. -/
def refuseTemplate {α : Type} (words : String) : Eval α := throw (.unsuitable (.text words))

/-- The text of a field up to its closing brace, where `depth` braces are open, and what follows. -/
def fieldText? : (depth : Nat) → List Char → Option (List Char × List Char)
  | _, [] => none
  | 0, '\x7d' :: cs => some ([], cs)
  | depth, c :: cs =>
    let depth := if c = '\x7b' then depth + 1 else if c = '\x7d' then depth - 1 else depth
    (fieldText? depth cs).map fun (inside, rest) => (c :: inside, rest)

/-- The path of a field, and what follows it. Brackets hold any signs. -/
def fieldPath : (isBracketed : Bool) → List Char → List Char × List Char
  | _, [] => ([], [])
  | isBracketed, c :: cs =>
    if !isBracketed && (c = '!' || c = ':') then ([], c :: cs)
    else
      let inside := if c = '[' then true else if c = ']' then false else isBracketed
      let (path, rest) := fieldPath inside cs
      (c :: path, rest)

/-- The parts of a field. -/
def readField (cs : List Char) : Eval TemplateField :=
  match fieldPath false cs with
  | (path, '!' :: c :: ':' :: layout) => return ⟨path, some c, layout⟩
  | (path, ['!', c]) => return ⟨path, some c, []⟩
  | (_, '!' :: _ :: _) => refuseTemplate "expected ':' after conversion specifier"
  | (_, ['!']) => refuseTemplate "end of string while looking for conversion specifier"
  | (path, ':' :: layout) => return ⟨path, none, layout⟩
  | (path, _) => return ⟨path, none, []⟩

/-- The argument that the start of a path names. -/
def fieldArgument (args : Arguments) (count : FieldCount) (name : List Char) :
    Eval (TypeExpr × FieldCount) := do
  let placed (n : Nat) (count : FieldCount) : Eval (TypeExpr × FieldCount) :=
    match args.positional[n]? with
    | some t => return (t, count)
    | none => throw (.unreachable n)
  if name.isEmpty then
    if count.isWritten = some true then
      refuseTemplate
        "cannot switch from manual field specification to automatic field numbering"
    else placed count.next ⟨count.next + 1, some false⟩
  else if name.all Char.isDigit then
    if count.isWritten = some false then
      refuseTemplate
        "cannot switch from automatic field numbering to manual field specification"
    else placed ((Number.Layout.natural? name).1.getD 0) ⟨count.next, some true⟩
  else match args.named.lookup (String.ofList name) with
    | some t => return (t, count)
    | none => throw (.missingKey (Text.quoted (String.ofList name)))

/-- What a path leads to from a value, in at most `steps` steps. -/
def follow : (steps : Nat) → TypeExpr → List Char → Eval TypeExpr
  | 0, t, _ => return t
  | _, t, [] => return t
  | steps + 1, t, '.' :: cs => do
    let name := cs.takeWhile fun c => c ≠ '.' && c ≠ '['
    if name.isEmpty then refuseTemplate "Empty attribute in format string"
    follow steps (← cat.attributeOf t (String.ofList name)) (cs.drop name.length)
  | steps + 1, t, '[' :: cs => do
    let key := cs.takeWhile (· ≠ ']')
    if key.isEmpty then refuseTemplate "Empty attribute in format string"
    let item : TypeExpr :=
      if key.all Char.isDigit then .ofInt ((Number.Layout.natural? key).1.getD 0)
      else .ofText (String.ofList key)
    follow steps (← cat.subscript t item) (cs.drop (key.length + 1))
  | _, _, _ :: _ => refuseTemplate "Only '.' or '[' may follow ']' in format field specifier"

/-- The value of a field as it is written for a conversion. -/
def convertField (conversion : Option Char) (t : TypeExpr) : Eval TypeExpr :=
  match conversion with
  | none => return t
  | some c =>
    if "rsa".toList.contains c then return .ofText (cat.converted c t)
    else refuseTemplate ("Unknown conversion specifier " ++ String.singleton c)

/-- A template with its fields replaced, in at most `steps` steps, where layouts may hold fields
themselves `depth` times. -/
def fillTemplate (args : Arguments) : (depth steps : Nat) → FieldCount → List Char →
    Eval (List Char × FieldCount)
  | _, 0, count, _ => return ([], count)
  | _, _, count, [] => return ([], count)
  | 0, _, _, _ => refuseTemplate "Max string recursion exceeded"
  | depth + 1, steps + 1, count, '\x7b' :: '\x7b' :: cs => do
    let (rest, count) ← fillTemplate args (depth + 1) steps count cs
    return ('\x7b' :: rest, count)
  | depth + 1, steps + 1, count, '\x7d' :: '\x7d' :: cs => do
    let (rest, count) ← fillTemplate args (depth + 1) steps count cs
    return ('\x7d' :: rest, count)
  | _, _, _, '\x7d' :: _ => refuseTemplate "Single '\x7d' encountered in format string"
  | depth + 1, steps + 1, count, '\x7b' :: cs => do
    if cs.isEmpty then refuseTemplate "Single '\x7b' encountered in format string"
    match fieldText? 0 cs with
    | none => refuseTemplate "expected '\x7d' before end of string"
    | some (inside, after) =>
      let field ← readField inside
      let name := field.path.takeWhile fun c => c ≠ '.' && c ≠ '['
      let (argument, count) ← fieldArgument args count name
      let value ← cat.follow field.path.length argument (field.path.drop name.length)
      let (layout, count) ← fillTemplate args depth steps count field.layout
      let shown ← cat.formatted (← cat.convertField field.conversion value) (String.ofList layout)
      let (rest, count) ← fillTemplate args (depth + 1) steps count after
      return (shown.toList ++ rest, count)
  | depth + 1, steps + 1, count, c :: cs => do
    let (rest, count) ← fillTemplate args (depth + 1) steps count cs
    return (c :: rest, count)

/-- A text whose fields are replaced by arguments. -/
def filledTemplate (template : String) (args : Arguments) : Eval String := do
  let cs := template.toList
  return String.ofList (← cat.fillTemplate args 2 (cs.length + 1) ⟨0, none⟩ cs).1

end Catalog

end TypeSchema
