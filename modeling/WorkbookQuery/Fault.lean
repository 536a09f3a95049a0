/-
  What can go wrong between an expression and its result, and how each fault is worded.
-/
import WorkbookQuery.Value.Basic

namespace WorkbookQuery

inductive Fault where
  | io (reason : String)
  /-- A part of an expression that no statement can express, by its text. -/
  | unsupported (construct : String)
  /-- A cell whose value does not fit the field that reads its column. -/
  | columnMismatch (column : String) (expected : ScalarType) (row : Nat) (value : String)
  | conversion (value : String) (target : ScalarType)
  | invalidModel (reason : String)
  | columnNotFound (column : String)
  | connection (reason : String)
  | execution (reason : String)
  /-- The connection was closed while it was in use. -/
  | aborted (reason : String)
  | noRows
  | configuration (reason : String)
  deriving DecidableEq

namespace Fault

def message : Fault → String
  | io reason => "IO error: " ++ reason
  | unsupported construct => "Unsupported query construct: " ++ construct
  | columnMismatch column expected row value =>
    "Column '" ++ column ++ "' at row " ++ toString row ++ ": cannot convert " ++ value ++
      " to " ++ expected.name
  | conversion value target => "Cannot convert " ++ value ++ " to " ++ target.name
  | invalidModel reason => "Invalid query model: " ++ reason
  | columnNotFound column => "Column not found: " ++ column
  | connection reason => "Connection error: " ++ reason
  | execution reason => "Execution error: " ++ reason
  | aborted reason => "Execution aborted: " ++ reason
  | noRows => "Query returned no rows"
  | configuration reason => "Configuration error: " ++ reason

/-- Only an aborted execution may succeed when it is tried again. -/
def isRetryable : Fault → Bool
  | aborted _ => true
  | _ => false

/-- The value has no counterpart of the target type. -/
def ofConversion (v : Value) (target : ScalarType) : Fault := conversion v.display target

end Fault

end WorkbookQuery
