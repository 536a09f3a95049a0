/-
  Selections: what one flat statement over one worksheet reads, said without the words of any
  dialect.
-/
import WorkbookQuery.Selection.Filter

namespace WorkbookQuery

inductive Direction where
  | ascending
  | descending
  deriving DecidableEq

structure OrderKey where
  column : String
  direction : Direction
  deriving DecidableEq

/-- A column that is read, and its name in the result if that is another. -/
structure ProjectedColumn where
  column : String
  alias? : Option String
  deriving DecidableEq

inductive Projection where
  /-- Every column of the worksheet. -/
  | all
  | columns (columns : List ProjectedColumn)
  deriving DecidableEq, Inhabited

inductive Cardinality where
  | all
  /-- One row; a result without rows is a fault. -/
  | first
  | firstOrDefault
  deriving DecidableEq, Inhabited

structure Selection where
  worksheet : String
  projection : Projection := .all
  filter : Option Filter := none
  ordering : List OrderKey := []
  limit : Option Nat := none
  element : Element := .dynamic
  cardinality : Cardinality := .all
  deriving DecidableEq, Inhabited

namespace Selection

def literals (s : Selection) : List BoundLiteral := (s.filter.map Filter.literals).getD []

def parameterCount (s : Selection) : Nat := s.literals.length

/-- Names after a projection are names of the result and not of the worksheet. -/
def isProjected (s : Selection) : Bool :=
  match s.projection with
  | .all => false
  | .columns _ => true

/-- The rows that also meet another condition. -/
def narrow (s : Selection) (f : Filter) : Selection :=
  { s with filter := some (match s.filter with
      | some earlier => .and earlier f
      | none => f) }

end Selection

end WorkbookQuery
