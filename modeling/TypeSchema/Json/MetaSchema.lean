import TypeSchema.Json.Basic
import TypeSchema.Text.Pattern
/-!
# Documents that are JSON Schemas

`Json.schemaFault?` finds the first fault that keeps a document from being a JSON Schema of draft
2020-12: a truth value, or an object in which every keyword of the draft has a value of the right
*shape*. Keywords that the draft does not know may have any value.

The keywords are looked at in the order in which the draft lists them, and schemas inside of a
value before the keywords that come after. The order shows only where a pattern is not just
malformed but cannot be read at all.
-/

namespace TypeSchema.Json

/-- The shapes that the values of keywords have. -/
inductive Shape where
  | anything | text | pattern | flag | number | positive | count | list | texts
  | identifier | anchor | vocabulary
  | typeNames
  | schema | schemas | schemaMap | patternMap | textsMap | dependencies
  deriving DecidableEq, Repr

/-- What is wrong with a document. -/
inductive SchemaFault where
  /-- A value has not the shape that it needs. -/
  | misshapen
  /-- A pattern cannot be read. -/
  | unreadable (cause : Text.Pattern.Fault)
  deriving DecidableEq, Repr

/-- The keywords of the draft with the shapes of their values. -/
def keywords : List (String × Shape) :=
  [("$id", .identifier), ("$schema", .text), ("$ref", .text), ("$anchor", .anchor),
   ("$dynamicRef", .text), ("$dynamicAnchor", .anchor), ("$vocabulary", .vocabulary),
   ("$comment", .text), ("$defs", .schemaMap),
   ("prefixItems", .schemas), ("items", .schema), ("contains", .schema),
   ("additionalProperties", .schema), ("properties", .schemaMap),
   ("patternProperties", .patternMap), ("dependentSchemas", .schemaMap),
   ("propertyNames", .schema), ("if", .schema), ("then", .schema), ("else", .schema),
   ("allOf", .schemas), ("anyOf", .schemas), ("oneOf", .schemas), ("not", .schema),
   ("unevaluatedItems", .schema), ("unevaluatedProperties", .schema),
   ("type", .typeNames), ("const", .anything), ("enum", .list), ("multipleOf", .positive),
   ("maximum", .number), ("exclusiveMaximum", .number), ("minimum", .number),
   ("exclusiveMinimum", .number), ("maxLength", .count), ("minLength", .count),
   ("pattern", .pattern), ("maxItems", .count), ("minItems", .count), ("uniqueItems", .flag),
   ("maxContains", .count), ("minContains", .count), ("maxProperties", .count),
   ("minProperties", .count), ("required", .texts), ("dependentRequired", .textsMap),
   ("title", .text), ("description", .text), ("default", .anything), ("deprecated", .flag),
   ("readOnly", .flag), ("writeOnly", .flag), ("examples", .list),
   ("format", .text),
   ("contentEncoding", .text), ("contentMediaType", .text), ("contentSchema", .schema),
   ("definitions", .schemaMap), ("dependencies", .dependencies),
   ("$recursiveAnchor", .anchor), ("$recursiveRef", .text)]

/-- The shape of a keyword's value. -/
def shapeOf (keyword : String) : Shape := (keywords.lookup keyword).getD .anything

/-- The names of the simple types. -/
def simpleTypes : List String :=
  ["array", "boolean", "integer", "null", "number", "object", "string"]

/-- Whether a list repeats nothing. -/
def isDistinct : List String → Bool
  | [] => true
  | s :: ss => !ss.contains s && isDistinct ss

/-- The texts of a list that holds nothing else. -/
def asTexts? (items : List Json) : Option (List String) :=
  items.mapM fun
    | .string s => some s
    | _ => none

/-- A list of different texts. -/
def isTexts : Json → Bool
  | .array items => (asTexts? items).any isDistinct
  | _ => false

/-- The name of a simple type, or a list of different names that is not empty. -/
def isTypeNames : Json → Bool
  | .string s => simpleTypes.contains s
  | .array items =>
    (asTexts? items).any fun names =>
      !names.isEmpty && isDistinct names && names.all simpleTypes.contains
  | _ => false

/-- Some characters without a line break at their end. -/
def withoutFinalBreak (cs : List Char) : List Char :=
  if cs.getLast? = some '\n' then cs.dropLast else cs

/-- A name that may be pointed at. A line break may follow it. -/
def isAnchor (s : String) : Bool :=
  match withoutFinalBreak s.toList with
  | [] => false
  | c :: cs =>
    (c.isAlpha || c == '_') &&
      cs.all fun c => c.isAlphanum || c == '-' || c == '.' || c == '_'

/-- An identifier has at most one `#`, at its end or before a line break at its end. -/
def isIdentifier (s : String) : Bool :=
  let rest := s.toList.dropWhile (· ≠ '#')
  rest.isEmpty || withoutFinalBreak rest == ['#']

/-- Whether a value without schemas in it has a shape. -/
def hasPlainShape : Shape → Json → Bool
  | .anything, _ => true
  | .text, .string _ => true
  | .flag, .bool _ => true
  | .number, .int _ => true
  | .positive, .int n => 0 < n
  | .count, .int n => 0 ≤ n
  | .list, .array _ => true
  | .texts, v => isTexts v
  | .identifier, .string s => isIdentifier s
  | .anchor, .string s => isAnchor s
  | .vocabulary, .object members =>
    members.all fun (_, v) => match v with
      | .bool _ => true
      | _ => false
  | .typeNames, v => isTypeNames v
  | .textsMap, .object members => members.all fun (_, v) => isTexts v
  | _, _ => false

/-- What is wrong with a pattern. -/
def patternFaults (s : String) : List SchemaFault :=
  match Text.Pattern.check s with
  | .ok _ => []
  | .error .malformed => [.misshapen]
  | .error cause => [.unreadable cause]

/-- Whether a fault is that a pattern cannot be read. -/
def SchemaFault.isUnreadable : SchemaFault → Bool
  | .misshapen => false
  | .unreadable _ => true

/-- What is wrong with a value that may have one of two shapes. -/
def eitherFaults (first : List SchemaFault) (second : Bool) : List SchemaFault :=
  match first.find? SchemaFault.isUnreadable with
  | some fault => [fault]
  | none => if first.isEmpty || second then [] else [.misshapen]

mutual

/-- What is wrong with a document that should be a JSON Schema, the first fault first. -/
def schemaFaults : Json → List SchemaFault
  | .bool _ => []
  | .object members =>
    -- The faults stand in the order of the draft, and not in that of the members.
    let found := memberFaults members
    keywords.flatMap fun (keyword, _) => (found.lookup keyword).getD []
  | _ => [.misshapen]

/-- What is wrong with the value of each keyword. -/
def memberFaults : List (String × Json) → List (String × List SchemaFault)
  | [] => []
  | (keyword, value) :: rest =>
    (keyword, shapeFaults (shapeOf keyword) value) :: memberFaults rest

/-- What keeps a value from having a shape. -/
def shapeFaults : Shape → Json → List SchemaFault
  | .schema, v => schemaFaults v
  | .schemas, .array items => if items.isEmpty then [.misshapen] else itemFaults items
  | .schemaMap, .object members => valueFaults members
  | .patternMap, .object members =>
    valueFaults members ++ members.flatMap fun (k, _) => patternFaults k
  | .dependencies, .object members => dependencyFaults members
  | .pattern, .string s => patternFaults s
  | shape, v => if hasPlainShape shape v then [] else [.misshapen]

/-- What is wrong with items that should be JSON Schemas. -/
def itemFaults : List Json → List SchemaFault
  | [] => []
  | v :: vs => schemaFaults v ++ itemFaults vs

/-- What is wrong with members that should be JSON Schemas. -/
def valueFaults : List (String × Json) → List SchemaFault
  | [] => []
  | (_, v) :: rest => schemaFaults v ++ valueFaults rest

/-- What is wrong with members that should be JSON Schemas or lists of different texts. -/
def dependencyFaults : List (String × Json) → List SchemaFault
  | [] => []
  | (_, v) :: rest => eitherFaults (schemaFaults v) (isTexts v) ++ dependencyFaults rest

end

/-- The first fault that keeps a document from being a JSON Schema, if there is one. -/
def schemaFault? (v : Json) : Option SchemaFault := (schemaFaults v).head?

/-- Whether a document is a JSON Schema. -/
def isSchema (v : Json) : Bool := (schemaFault? v).isNone

end TypeSchema.Json
