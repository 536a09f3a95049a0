/-
  Conditions on the rows of a worksheet. Their constants are numbered in the order in which
  they were met, the order in which a statement binds them.
-/
import WorkbookQuery.Expr.Basic

namespace WorkbookQuery

/-- A constant with its number. -/
structure BoundLiteral where
  value : Value
  type : ScalarType
  position : Nat
  deriving DecidableEq, Inhabited

def Literal.bind (l : Literal) (position : Nat) : BoundLiteral := ⟨l.value, l.type, position⟩

inductive Comparison where
  | eq | ne | lt | le | gt | ge
  deriving DecidableEq

namespace Comparison

def symbol : Comparison → String
  | .eq => "="
  | .ne => "<>"
  | .lt => "<"
  | .le => "<="
  | .gt => ">"
  | .ge => ">="

/-- The comparison that says the same when both operands swap sides. -/
def mirrored : Comparison → Comparison
  | .lt => .gt
  | .le => .ge
  | .gt => .lt
  | .ge => .le
  | op => op

end Comparison

/-- What a column is compared with. -/
inductive Operand where
  | literal (l : BoundLiteral)
  | column (name : String)
  deriving DecidableEq

inductive Filter where
  | comparison (column : String) (op : Comparison) (operand : Operand)
  | and (left right : Filter)
  | or (left right : Filter)
  | not (inner : Filter)
  | contains (column : String) (part : BoundLiteral)
  | startsWith (column : String) (start : BoundLiteral)
  | endsWith (column : String) (ending : BoundLiteral)
  | isNull (column : String)
  | isNotNull (column : String)
  deriving DecidableEq, Inhabited

namespace Filter

/-- The constants from left to right. -/
def literals : Filter → List BoundLiteral
  | .comparison _ _ (.literal l) => [l]
  | .comparison _ _ (.column _) => []
  | .and left right | .or left right => left.literals ++ right.literals
  | .not inner => inner.literals
  | .contains _ l | .startsWith _ l | .endsWith _ l => [l]
  | .isNull _ | .isNotNull _ => []

end Filter

end WorkbookQuery
