import TypeSchema.Catalog.Admission
import TypeSchema.Catalog.Basic
import TypeSchema.Catalog.Classify
import TypeSchema.Catalog.Display
import TypeSchema.Catalog.Fields
import TypeSchema.Catalog.Hints
import TypeSchema.Catalog.Model
import TypeSchema.Catalog.Registry
import TypeSchema.Compile
import TypeSchema.Console.Arguments
import TypeSchema.Console.Command
import TypeSchema.Console.Markup
import TypeSchema.Console.Path
import TypeSchema.Console.Screen
import TypeSchema.Console.Style
import TypeSchema.Declaration
import TypeSchema.Declaration.Bases
import TypeSchema.Declaration.Basic
import TypeSchema.Declaration.Body
import TypeSchema.Declaration.Class
import TypeSchema.Declaration.Enumeration
import TypeSchema.Declaration.Error
import TypeSchema.Declaration.Record
import TypeSchema.Digest.Md5
import TypeSchema.Digest.NameId
import TypeSchema.Document
import TypeSchema.Evaluation
import TypeSchema.Evaluation.Arguments
import TypeSchema.Evaluation.Attribute
import TypeSchema.Evaluation.Call
import TypeSchema.Evaluation.Check
import TypeSchema.Evaluation.Closure
import TypeSchema.Evaluation.Construct
import TypeSchema.Evaluation.Error
import TypeSchema.Evaluation.Format
import TypeSchema.Evaluation.Function
import TypeSchema.Evaluation.Item
import TypeSchema.Evaluation.Kind
import TypeSchema.Evaluation.Method
import TypeSchema.Evaluation.Model
import TypeSchema.Evaluation.Operator
import TypeSchema.Evaluation.Parameters
import TypeSchema.Evaluation.Reference
import TypeSchema.Evaluation.Scope
import TypeSchema.Evaluation.Subscript
import TypeSchema.Evaluation.Template
import TypeSchema.Evaluation.TextMethod
import TypeSchema.Evaluation.Trace
import TypeSchema.Expression.Basic
import TypeSchema.Expression.Binding
import TypeSchema.Expression.Fault
import TypeSchema.Expression.Literal
import TypeSchema.Expression.Parser
import TypeSchema.Expression.Quotation
import TypeSchema.Expression.Token
import TypeSchema.Json.Basic
import TypeSchema.Json.Layout
import TypeSchema.Json.MetaSchema
import TypeSchema.Ledger
import TypeSchema.Linearization
import TypeSchema.Main
import TypeSchema.Node.Basic
import TypeSchema.Node.Dump
import TypeSchema.Node.Equality
import TypeSchema.Node.Outline
import TypeSchema.Node.Render
import TypeSchema.Number.Binary64
import TypeSchema.Number.Decimal
import TypeSchema.Number.Layout
import TypeSchema.Number.Notation
import TypeSchema.OrderedMap
import TypeSchema.Proofs.Compile.Form
import TypeSchema.Proofs.Compile.Run
import TypeSchema.Proofs.Ledger
import TypeSchema.Proofs.OrderedMap
import TypeSchema.SchemaError
import TypeSchema.Session
import TypeSchema.Target
import TypeSchema.Text.Address
import TypeSchema.Text.Cells
import TypeSchema.Text.CharacterName
import TypeSchema.Text.CharacterName.Data
import TypeSchema.Text.Compatibility
import TypeSchema.Text.Compatibility.Data
import TypeSchema.Text.Emoji
import TypeSchema.Text.Emoji.Data
import TypeSchema.Text.Hex
import TypeSchema.Text.Identifier
import TypeSchema.Text.Identifier.Data
import TypeSchema.Text.Lowercase
import TypeSchema.Text.Numeral
import TypeSchema.Text.Pattern
import TypeSchema.Text.Pattern.Escape
import TypeSchema.Text.Pattern.Scan
import TypeSchema.Text.Printable
import TypeSchema.Text.Quoted
import TypeSchema.Text.Search
import TypeSchema.Text.Table
import TypeSchema.Text.Uppercase
import TypeSchema.Text.Words
import TypeSchema.Typing.Alias
import TypeSchema.Typing.Arithmetic
import TypeSchema.Typing.Builtin
import TypeSchema.Typing.Constant
import TypeSchema.Typing.Display
import TypeSchema.Typing.Equality
import TypeSchema.Typing.Expr
import TypeSchema.Typing.Library
import TypeSchema.Typing.Methods
import TypeSchema.Typing.StandardLibrary
import TypeSchema.Typing.Union
import TypeSchema.Proofs.Compile.Derivation
import TypeSchema.Proofs.Compile.Represents
import TypeSchema.Proofs.Compile.Soundness
import TypeSchema.Proofs.Compile.Root
import TypeSchema.Proofs.Expansion
import TypeSchema.Proofs.References
import TypeSchema.Proofs.ClassGraph
import TypeSchema.Proofs.Cycles
import TypeSchema.Proofs.Depth
import TypeSchema.Proofs.Compile.Failure
import TypeSchema.Proofs.Nesting
import TypeSchema.Proofs.Strictness
import TypeSchema.Proofs.Declaration.Run
import TypeSchema.Proofs.Declaration.Members
import TypeSchema.Proofs.Grammar
import TypeSchema.Proofs.Compile.Calls
import TypeSchema.Proofs.Objects
import TypeSchema.Proofs.Descriptions
import TypeSchema.Proofs.Limits
import TypeSchema.Proofs.Compile.Registrations
import TypeSchema.Proofs.Compile.Moments
import TypeSchema.Proofs.Discipline
import TypeSchema.Proofs.Definitions
import TypeSchema.Proofs.MetaSchema
import TypeSchema.Proofs.Validity
import TypeSchema.Proofs.Legibility
import TypeSchema.Proofs.JsonText
import TypeSchema.Proofs.Console.Run
import TypeSchema.Proofs.Console.Build
import TypeSchema.Proofs.Console.Unmarked
import TypeSchema.Proofs.Console.Plain
import TypeSchema.Proofs.Console.Table
import TypeSchema.Proofs.Console.Inspect
import TypeSchema.Proofs.Compile.Agreement
import TypeSchema.Proofs.Compile.Shown
import TypeSchema.Proofs.Declaration.Styles
import TypeSchema.Proofs.Annotations
import TypeSchema.Proofs.Blame
import TypeSchema.Proofs.Properties
import TypeSchema.Proofs.Declaration.Steps
import TypeSchema.Proofs.Declaration.Records
import TypeSchema.Proofs.Dataclasses
import TypeSchema.Proofs.Restyling
import TypeSchema.Proofs.Declaration.Order
import TypeSchema.Proofs.RootPath
import TypeSchema.Proofs.Walk
import TypeSchema.Proofs.Spellings
import TypeSchema.Proofs.Equality
import TypeSchema.Proofs.Congruence
import TypeSchema.Proofs.Wrappers
import TypeSchema.Proofs.Identifiers
import TypeSchema.Proofs.Console.Failure
import TypeSchema.Proofs.Registries.Classes
import TypeSchema.Proofs.Registries.Values
import TypeSchema.Proofs.Registries.Evaluation
import TypeSchema.Proofs.Registries.Calls
import TypeSchema.Proofs.Target
import TypeSchema.Proofs.LedgerUse
