/-
  Drivers: what opens workbook files and runs statements.
-/
import WorkbookQuery.RowSource
import WorkbookQuery.Schema.Headers
import WorkbookQuery.Statement.Emission

namespace WorkbookQuery

/-- A state in which files can be opened and statements run on them. A statement's result is
its headers and a cursor, and rows are read from cursor and state together. -/
class Driver (δ : Type) where
  Connection : Type
  Cursor : Type
  connect (file : WorkbookFile) (dialect : Dialect) : EStateM Fault δ Connection
  execute (connection : Connection) (statement : Statement) : EStateM Fault δ (Headers × Cursor)
  source : RowSource (Cursor × δ)

attribute [reducible, instance] Driver.source

end WorkbookQuery
