import SchemaLoom.Json.Reader
import SchemaLoom.Json.Printer
import SchemaLoom.Text.Quoted
import SchemaLoom.Text.Words
import SchemaLoom.Definition.Basic
import SchemaLoom.Error
import SchemaLoom.WireType
import SchemaLoom.Column.Basic
import SchemaLoom.Column.Catalog
import SchemaLoom.Column.Conversion
import SchemaLoom.Params
import SchemaLoom.Table
import SchemaLoom.Ddl.Artifact
import SchemaLoom.Sql.Clause
import SchemaLoom.Sql.Select
import SchemaLoom.Code.Identifier
import SchemaLoom.Code.Render
import SchemaLoom.Derived.Statements
import SchemaLoom.Ddl.Json
import SchemaLoom.Definition.Reader
import SchemaLoom.Definition.Writer
import SchemaLoom.Output.Disk
import SchemaLoom.Pass
import SchemaLoom.Wire.Calendar
import SchemaLoom.Wire.Codec
import SchemaLoom.Command.Arguments
import SchemaLoom.Command.Run
import SchemaLoom.Main
import SchemaLoom.Proofs.Compiled
import SchemaLoom.Proofs.Distinct
import SchemaLoom.Proofs.Pairs
import SchemaLoom.Proofs.Params
import SchemaLoom.Proofs.Registry
import SchemaLoom.Proofs.Ddl.Check
import SchemaLoom.Proofs.Ddl.Validity
import SchemaLoom.Proofs.Ddl.Hierarchy
import SchemaLoom.Proofs.Sql.Placeholder
import SchemaLoom.Proofs.Sql.Condition
import SchemaLoom.Proofs.Sql.Scope
import SchemaLoom.Proofs.Sql.Site
import SchemaLoom.Proofs.Sql.Draft
import SchemaLoom.Proofs.Sql.Acceptance
import SchemaLoom.Proofs.Sql.Select
import SchemaLoom.Proofs.Sql.ClauseRules
import SchemaLoom.Proofs.Sql.SelectAcceptance
import SchemaLoom.Proofs.Sql.Agreement
import SchemaLoom.Proofs.Sql.Sharing
import SchemaLoom.Proofs.Sql.JoinSemantics
import SchemaLoom.Proofs.Sql.Nullability
import SchemaLoom.Proofs.Sql.Growth
import SchemaLoom.Proofs.Pass
import SchemaLoom.Proofs.Wire.Calendar
import SchemaLoom.Proofs.Wire.Double
import SchemaLoom.Proofs.Wire.Timestamp
import SchemaLoom.Proofs.Wire.RoundTrip
import SchemaLoom.Proofs.Code.Identifier
import SchemaLoom.Proofs.Sql.Lookup
import SchemaLoom.Proofs.Blocks
import SchemaLoom.Proofs.Code.Functions
import SchemaLoom.Proofs.Code.Parameters
import SchemaLoom.Proofs.Reorder
import SchemaLoom.Proofs.Ddl.Namespaces
import SchemaLoom.Proofs.Json.Number
import SchemaLoom.Proofs.Json.RoundTrip
import SchemaLoom.Proofs.Json.Decoding
import SchemaLoom.Proofs.Definition.RoundTrip
import SchemaLoom.Proofs.Ddl.SchemaFile
import SchemaLoom.Proofs.Attribution
import SchemaLoom.Proofs.Output.Store
import SchemaLoom.Proofs.Text.Legible
import SchemaLoom.Proofs.Sql.Nesting
import SchemaLoom.Proofs.Code.Rows
import SchemaLoom.Proofs.Ddl.StatementText
import SchemaLoom.Proofs.Ddl.SchemaText
import SchemaLoom.Proofs.Sql.Insert
import SchemaLoom.Proofs.Derived.Task
import SchemaLoom.Proofs.Sql.Keyed
import SchemaLoom.Proofs.Derived.Statements
import SchemaLoom.Proofs.Requests
import SchemaLoom.Proofs.Wire.Rounding
import SchemaLoom.Proofs.Wire.EnumNumber
import SchemaLoom.Proofs.Code.Lexical
import SchemaLoom.Proofs.Text.Lines
import SchemaLoom.Proofs.Sql.LineBreaks
import SchemaLoom.Proofs.Code.Comments
