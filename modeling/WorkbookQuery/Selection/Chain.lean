/-
  The selection that a chain of calls describes. The chain is read from the worksheet outwards,
  so that the selection sees the calls in the order in which they were made.
-/
import WorkbookQuery.Selection.Basic
import WorkbookQuery.Selection.Predicate

namespace WorkbookQuery

namespace Expr

/-- The only argument of a call when it is a lambda. -/
def soleLambda (node : Expr) : List Expr → Except Fault (String × Expr)
  | [.lambda param body] => .ok (param, body)
  | _ => node.reject

/-- The only argument of a call when it is a constant that counts rows. -/
def rowCount (node : Expr) : List Expr → Except Fault Nat
  | [.constant l] =>
    match l.value.coerce .integer with
    | .ok (.integer n) => if 0 ≤ n.toInt then .ok n.toInt.toNat else node.reject
    | _ => node.reject
  | _ => node.reject

end Expr

namespace Selection

/-- Keep the rows that meet a condition. After a limit or a projection there is no flat
statement for that. -/
def addFilter (m : ColumnMap) (node : Expr) (args : List Expr) (s : Selection) (n : Nat) :
    Except Fault (Selection × Nat) := do
  let (param, body) ← node.soleLambda args
  if s.limit.isSome ∨ s.isProjected then node.reject
  let (f, n) ← Term.filterOfExpr m param body n
  return (s.narrow f, n)

/-- Order by one more column. A continued ordering needs one to continue. -/
def addOrdering (m : ColumnMap) (direction : Direction) (continued : Bool) (node : Expr)
    (args : List Expr) (s : Selection) (n : Nat) : Except Fault (Selection × Nat) := do
  let (param, body) ← node.soleLambda args
  let (column, n) ← Term.columnOfExpr m param body n
  if s.limit.isSome ∨ s.isProjected ∨ (continued ∧ s.ordering.isEmpty) then node.reject
  return ({ s with ordering := s.ordering ++ [⟨column, direction⟩] }, n)

/-- The columns of a record's fields. A field named like its column needs no other name. -/
def fieldColumns (m : ColumnMap) (param : String) :
    List (String × Expr) → Nat → Except Fault (List ProjectedColumn × Nat)
  | [], n => .ok ([], n)
  | (name, e) :: rest, n => do
    let (column, n) ← Term.columnOfExpr m param e n
    let (columns, n) ← fieldColumns m param rest n
    return (⟨column, if name = column then none else some name⟩ :: columns, n)

/-- Read some columns only. The identity reads what was read before. -/
def project (m : ColumnMap) (node : Expr) (args : List Expr) (s : Selection) (n : Nat) :
    Except Fault (Selection × Nat) := do
  let (param, body) ← node.soleLambda args
  if s.isProjected then node.reject
  if Term.isOwn param body then return (s, n)
  let (columns, n) ← match body with
    | .record fields => fieldColumns m param fields n
    | body => do
      let (column, n) ← Term.columnOfExpr m param body n
      pure ([⟨column, none⟩], n)
  return ({ s with projection := .columns columns, element := .dynamic }, n)

/-- One row, of those that meet the condition when there is one. -/
def takeFirst (m : ColumnMap) (cardinality : Cardinality) (node : Expr) (args : List Expr)
    (s : Selection) (n : Nat) : Except Fault (Selection × Nat) := do
  let (s, n) ← if args.isEmpty then pure (s, n) else s.addFilter m node args n
  return ({ s with limit := some 1, cardinality }, n)

/-- What one call of a chain does to the selection before it. -/
def applyCall (m : ColumnMap) (node : Expr) (method : String) (args : List Expr)
    (s : Selection) (n : Nat) : Except Fault (Selection × Nat) :=
  match method with
  | "where" => s.addFilter m node args n
  | "order_by" => s.addOrdering m .ascending false node args n
  | "order_by_descending" => s.addOrdering m .descending false node args n
  | "then_by" => s.addOrdering m .ascending true node args n
  | "then_by_descending" => s.addOrdering m .descending true node args n
  | "take" => do return ({ s with limit := some (← node.rowCount args) }, n)
  | "first" => s.takeFirst m .first node args n
  | "first_or_default" => s.takeFirst m .firstOrDefault node args n
  | "select" => s.project m node args n
  | "as_rows" => if args.isEmpty then .ok ({ s with element := .dynamic }, n) else node.reject
  | _ => node.reject

/-- The selection of a chain of calls on a source. -/
def draft (m : ColumnMap) (worksheet : String) : Expr → Except Fault (Selection × Nat)
  | .source element => .ok ({ worksheet, element }, 0)
  | .call target method args => do
    let (s, n) ← draft m worksheet target
    s.applyCall m (.call target method args) method args n
  | e => e.reject

/-- What an expression selects from a worksheet, its properties read through `m`. -/
def ofExpr (e : Expr) (m : ColumnMap) (worksheet : String) : Except Fault Selection := do
  let (s, _) ← draft m worksheet e
  return s

end Selection

end WorkbookQuery
