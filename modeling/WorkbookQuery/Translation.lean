/-
  Translation of a query expression: what it selects, and the statement for it.
-/
import WorkbookQuery.Selection.Chain
import WorkbookQuery.Statement.Placeholder

namespace WorkbookQuery

structure Translation where
  selection : Selection
  statement : Statement
  deriving DecidableEq, Inhabited

/-- Translate an expression over a worksheet, its properties read through `m`. -/
def translate (e : Expr) (m : ColumnMap) (worksheet : String) (d : Dialect)
    (settings : Settings) : Except Fault Translation := do
  let selection ← Selection.ofExpr e m worksheet
  return ⟨selection, ← Statement.ofSelection selection d settings⟩

end WorkbookQuery
