import WorkbookQuery.Calendar.Date
import WorkbookQuery.Calendar.Pattern
import WorkbookQuery.Calendar.Serial
import WorkbookQuery.Decimal.Binary64
import WorkbookQuery.Decimal.Layout
import WorkbookQuery.Decimal.Numeral
import WorkbookQuery.Decimal.Shortest
import WorkbookQuery.Expr.Basic
import WorkbookQuery.Expr.Visitor
import WorkbookQuery.Fault
import WorkbookQuery.File.Format
import WorkbookQuery.File.Path
import WorkbookQuery.Json.Basic
import WorkbookQuery.Json.Form
import WorkbookQuery.Json.Numeral
import WorkbookQuery.Json.Reading
import WorkbookQuery.Json.SelectionForm
import WorkbookQuery.Json.SettingsForm
import WorkbookQuery.Json.Token
import WorkbookQuery.Json.ValueForm
import WorkbookQuery.Materialization
import WorkbookQuery.Proofs.Alignment
import WorkbookQuery.Proofs.Body
import WorkbookQuery.Proofs.Meaning
import WorkbookQuery.Proofs.Outcome
import WorkbookQuery.Proofs.Scanning
import WorkbookQuery.Proofs.SelectReading
import WorkbookQuery.Proofs.Tokens
import WorkbookQuery.Proofs.Unambiguous
import WorkbookQuery.Proofs.Writing
import WorkbookQuery.Query
import WorkbookQuery.Record.Basic
import WorkbookQuery.Record.Field
import WorkbookQuery.Row
import WorkbookQuery.RowSource
import WorkbookQuery.Schema.ColumnMap
import WorkbookQuery.Schema.Headers
import WorkbookQuery.Selection.Basic
import WorkbookQuery.Selection.Chain
import WorkbookQuery.Selection.Filter
import WorkbookQuery.Selection.Predicate
import WorkbookQuery.Session.Driver
import WorkbookQuery.Session.Store
import WorkbookQuery.Session.Workbook
import WorkbookQuery.Settings
import WorkbookQuery.SettingsText
import WorkbookQuery.Statement.Dialect
import WorkbookQuery.Statement.Emission
import WorkbookQuery.Statement.Placeholder
import WorkbookQuery.Statement.Select
import WorkbookQuery.Statement.Token
import WorkbookQuery.Text.Blank
import WorkbookQuery.Text.Letters
import WorkbookQuery.Text.Quoted
import WorkbookQuery.Text.Upper
import WorkbookQuery.Text.Visible
import WorkbookQuery.Toml.Basic
import WorkbookQuery.Toml.Document
import WorkbookQuery.Toml.Scalar
import WorkbookQuery.Toml.Text
import WorkbookQuery.Translation
import WorkbookQuery.Value.Basic
import WorkbookQuery.Value.Coercion
import WorkbookQuery.Proofs.Chain
import WorkbookQuery.Proofs.Numbering
import WorkbookQuery.Proofs.Rejection
import WorkbookQuery.Proofs.Execution
import WorkbookQuery.Proofs.ResultType
import WorkbookQuery.Proofs.Variation
import WorkbookQuery.Proofs.Grammar
import WorkbookQuery.Proofs.Language
import WorkbookQuery.Proofs.Interleaving
import WorkbookQuery.Proofs.Patterns
import WorkbookQuery.Proofs.Renaming
import WorkbookQuery.Proofs.Legibility
import WorkbookQuery.Proofs.Casting
import WorkbookQuery.Proofs.Footprint
import WorkbookQuery.Proofs.Parameters
import WorkbookQuery.Proofs.FirstFailure
import WorkbookQuery.Proofs.Truncation
import WorkbookQuery.Proofs.Acceptance
import WorkbookQuery.Proofs.Merging
import WorkbookQuery.Proofs.Threshold
import WorkbookQuery.Proofs.IntegerText
import WorkbookQuery.Proofs.LambdaNames
import WorkbookQuery.Proofs.FirstRow
import WorkbookQuery.Proofs.DateText
import WorkbookQuery.Proofs.RoundTrip
import WorkbookQuery.Proofs.Setters
import WorkbookQuery.Proofs.Trimming
import WorkbookQuery.Proofs.HeaderLookup
