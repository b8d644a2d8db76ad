import SchemaDesk.Logging
import SchemaDesk.Reading.Locate
import SchemaDesk.Schema.Editor
import SchemaDesk.Service
import SchemaDesk.Proofs.Reconciliation.Matching
import SchemaDesk.Proofs.Reconciliation.Tables
import SchemaDesk.Proofs.Reconciliation.Relations
import SchemaDesk.Proofs.Schema.Identifier
import SchemaDesk.Proofs.Reconciliation.Repetition
import SchemaDesk.Proofs.Sql.Lexing.Lexeme
import SchemaDesk.Proofs.Sql.Lexing.Tokens
import SchemaDesk.Proofs.Text.Name
import SchemaDesk.Proofs.Sql.Lexing.Word
import SchemaDesk.Proofs.Sql.Lexing.Piece
import SchemaDesk.Proofs.Sql.Lexing.Value
import SchemaDesk.Proofs.Sql.Reading.Reader
import SchemaDesk.Proofs.Sql.Reading.Follow
import SchemaDesk.Proofs.Sql.Reading.Value
import SchemaDesk.Proofs.Sql.Reading.Sum
import SchemaDesk.Proofs.Sql.Lexing.Fixed
import SchemaDesk.Proofs.Ddl.Literal
import SchemaDesk.Proofs.Sql.Reading.Items
import SchemaDesk.Proofs.Ddl.Type
import SchemaDesk.Proofs.Sql.Reading.Name
import SchemaDesk.Proofs.Ddl.TypeReading
import SchemaDesk.Proofs.Ddl.Clause
import SchemaDesk.Proofs.Ddl.Identifier
import SchemaDesk.Proofs.Ddl.Line
import SchemaDesk.Proofs.Ddl.LineReading
import SchemaDesk.Proofs.Ddl.Statement
import SchemaDesk.Proofs.Sql.Reading.End
import SchemaDesk.Proofs.Ddl.CreationReading
import SchemaDesk.Proofs.Ddl.AlterationReading
import SchemaDesk.Proofs.Extraction.Content
import SchemaDesk.Proofs.Extraction.Keys
import SchemaDesk.Proofs.Extraction.Order
import SchemaDesk.Proofs.Definition.Marks
import SchemaDesk.Proofs.Extraction.Unique
import SchemaDesk.Proofs.Ddl.ClauseDescription
import SchemaDesk.Proofs.Ddl.ColumnEcho
import SchemaDesk.Proofs.Ddl.KeyDescription
import SchemaDesk.Proofs.Ddl.PageSchema
import SchemaDesk.Proofs.Ddl.WrittenTable
import SchemaDesk.Proofs.Reading.OneColumn
import SchemaDesk.Proofs.Reading.ColumnTypes
import SchemaDesk.Proofs.Service.Outcome
import SchemaDesk.Proofs.Service.Wire
import SchemaDesk.Proofs.Schema.Operation
import SchemaDesk.Proofs.Ddl.Rewriting
import SchemaDesk.Proofs.Ddl.TextDefault
import SchemaDesk.Proofs.Reconciliation.Distinct
import SchemaDesk.Proofs.Schema.InPlace
import SchemaDesk.Proofs.Schema.Run
import SchemaDesk.Proofs.Schema.KeyMark
import SchemaDesk.Proofs.Naming
import SchemaDesk.Proofs.Schema.WellNamed
import SchemaDesk.Proofs.Schema.Linked
import SchemaDesk.Proofs.Schema.ColumnOrder
import SchemaDesk.Proofs.Schema.ColumnDeletion
import SchemaDesk.Proofs.Ddl.Structure
import SchemaDesk.Proofs.Extraction.Numerals
import SchemaDesk.Proofs.Extraction.Inline
import SchemaDesk.Proofs.Extraction.Respelling
import SchemaDesk.Proofs.ColumnType.NormalForm
import SchemaDesk.Proofs.Definition.Numbers
import SchemaDesk.Proofs.Ddl.TypeCatalogue
import SchemaDesk.Proofs.Ddl.KeyClause
import SchemaDesk.Proofs.Ddl.ConstraintName
import SchemaDesk.Proofs.Definition.Actions
import SchemaDesk.Proofs.Reading.Place
import SchemaDesk.Proofs.Reading.CommandPlace
import SchemaDesk.Proofs.Sql.Separation
import SchemaDesk.Proofs.Timestamp.Instant
