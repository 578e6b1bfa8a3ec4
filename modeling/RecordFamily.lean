import RecordFamily.Collision
import RecordFamily.Command.Arguments
import RecordFamily.Command.Run
import RecordFamily.Conversion
import RecordFamily.Decimal.Double
import RecordFamily.Decimal.Shortest
import RecordFamily.Demand
import RecordFamily.Demonstration
import RecordFamily.Derivation
import RecordFamily.Dictionary.Read
import RecordFamily.Dictionary.Write
import RecordFamily.Directive.Basic
import RecordFamily.Directive.Token
import RecordFamily.Distribution
import RecordFamily.Emit.ClassModule
import RecordFamily.Emit.ClassText
import RecordFamily.Emit.Docstring
import RecordFamily.Emit.Graph
import RecordFamily.Emit.Render
import RecordFamily.Emit.Save
import RecordFamily.Error
import RecordFamily.Fallback
import RecordFamily.Family
import RecordFamily.FileTree
import RecordFamily.Json.Reader
import RecordFamily.Json.Writer
import RecordFamily.Main
import RecordFamily.Naming
import RecordFamily.Options
import RecordFamily.Outcome
import RecordFamily.Proofs.Bases
import RecordFamily.Proofs.BodyNames
import RecordFamily.Proofs.Check
import RecordFamily.Proofs.ClassText
import RecordFamily.Proofs.Collision
import RecordFamily.Proofs.Comparison
import RecordFamily.Proofs.Completeness
import RecordFamily.Proofs.Convention
import RecordFamily.Proofs.Conversion
import RecordFamily.Proofs.Declared
import RecordFamily.Proofs.Decoration
import RecordFamily.Proofs.Derivation
import RecordFamily.Proofs.Diagnosis
import RecordFamily.Proofs.Dictionary
import RecordFamily.Proofs.Directive
import RecordFamily.Proofs.Distribution
import RecordFamily.Proofs.Docstring
import RecordFamily.Proofs.Document
import RecordFamily.Proofs.Escape
import RecordFamily.Proofs.Escaping
import RecordFamily.Proofs.Existence
import RecordFamily.Proofs.Fallback
import RecordFamily.Proofs.FileTree
import RecordFamily.Proofs.Grammar
import RecordFamily.Proofs.Graph
import RecordFamily.Proofs.GraphName
import RecordFamily.Proofs.History
import RecordFamily.Proofs.Independence
import RecordFamily.Proofs.Json
import RecordFamily.Proofs.JsonReading
import RecordFamily.Proofs.JsonString
import RecordFamily.Proofs.Message
import RecordFamily.Proofs.Method
import RecordFamily.Proofs.NameClash
import RecordFamily.Proofs.Naming
import RecordFamily.Proofs.Occurrences
import RecordFamily.Proofs.Outcome
import RecordFamily.Proofs.Output
import RecordFamily.Proofs.Parameter
import RecordFamily.Proofs.Pipeline
import RecordFamily.Proofs.Quotation
import RecordFamily.Proofs.Redeclaration
import RecordFamily.Proofs.Registry
import RecordFamily.Proofs.Reloading
import RecordFamily.Proofs.Removal
import RecordFamily.Proofs.Rendering
import RecordFamily.Proofs.Repetition
import RecordFamily.Proofs.RoundTrip
import RecordFamily.Proofs.Routing
import RecordFamily.Proofs.Rule
import RecordFamily.Proofs.RuleCheck
import RecordFamily.Proofs.Run
import RecordFamily.Proofs.Schema
import RecordFamily.Proofs.Shape
import RecordFamily.Proofs.SingleLine
import RecordFamily.Proofs.Sorting
import RecordFamily.Proofs.Strictness
import RecordFamily.Proofs.Validity
import RecordFamily.Proofs.Valuation
import RecordFamily.Proofs.Visibility
import RecordFamily.Proofs.WordCase
import RecordFamily.Proofs.Wording
import RecordFamily.Record
import RecordFamily.Registry
import RecordFamily.RegistryRun
import RecordFamily.Rule
import RecordFamily.Sample
import RecordFamily.Schema.Basic
import RecordFamily.Schema.Source
import RecordFamily.Slot
import RecordFamily.Text.Blank
import RecordFamily.Text.Case
import RecordFamily.Text.CaseTable
import RecordFamily.Text.CasedTable
import RecordFamily.Text.Identifier
import RecordFamily.Text.IdentifierTable
import RecordFamily.Text.Lines
import RecordFamily.Text.Numeral
import RecordFamily.Text.NumeralTable
import RecordFamily.Text.Parts
import RecordFamily.Text.PrintableTable
import RecordFamily.Text.Quoted
import RecordFamily.Text.Table
import RecordFamily.Text.Utf8
import RecordFamily.Value.Basic
import RecordFamily.Value.Calendar
import RecordFamily.Value.Cell
import RecordFamily.Value.Display
import RecordFamily.Value.SetOrder
import RecordFamily.Value.Wording
import RecordFamily.Yaml.Cursor
import RecordFamily.Yaml.Merge
import RecordFamily.Yaml.Node
import RecordFamily.Yaml.Numbers
import RecordFamily.Yaml.Properties
import RecordFamily.Yaml.Reader
import RecordFamily.Yaml.Scalars
import RecordFamily.Yaml.Style
import RecordFamily.Yaml.Tag
import RecordFamily.Yaml.Token
import RecordFamily.Yaml.Writer
