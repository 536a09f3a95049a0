/-
  Values of worksheet cells and statement parameters, their types and their text.
-/
import WorkbookQuery.Text.Quoted
import WorkbookQuery.Decimal.Layout
import WorkbookQuery.Calendar.Date

namespace WorkbookQuery

/-- The types that a cell, a literal or a field of a record can have. -/
inductive ScalarType where
  | text
  | integer
  | float
  | boolean
  | dateTime
  | date
  deriving DecidableEq, Inhabited

namespace ScalarType

def isNumeric : ScalarType → Bool
  | .integer | .float => true
  | _ => false

def name : ScalarType → String
  | .text => "text"
  | .integer => "integer"
  | .float => "float"
  | .boolean => "boolean"
  | .dateTime => "datetime"
  | .date => "date"

end ScalarType

inductive Value where
  | null
  | boolean (b : Bool)
  | integer (n : Int64)
  | float (x : Binary64)
  | text (s : String)
  | dateTime (t : DateTime)
  | date (d : Date)
  deriving DecidableEq, Inhabited

namespace Value

def isNull : Value → Bool
  | .null => true
  | _ => false

/-- Every value but null has a type. -/
def type? : Value → Option ScalarType
  | .null => none
  | .boolean _ => some .boolean
  | .integer _ => some .integer
  | .float _ => some .float
  | .text _ => some .text
  | .dateTime _ => some .dateTime
  | .date _ => some .date

theorem type?_eq_none_iff {v : Value} : v.type? = none ↔ v = .null := by
  cases v <;> simp [type?]

/-- The text that a cell of this value shows. -/
def render : Value → String
  | .null => ""
  | .boolean true => "true"
  | .boolean false => "false"
  | .integer n => toString n.toInt
  | .float x => x.text
  | .text s => s
  | .dateTime t => t.text
  | .date d => d.text

/-- The value as it stands in an expression or a message: text in quotes, null by name. -/
def display : Value → String
  | .null => "null"
  | .text s => Text.quoted s
  | v => v.render

end Value

end WorkbookQuery
