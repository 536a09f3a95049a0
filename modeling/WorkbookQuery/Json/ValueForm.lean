/-
  The JSON forms of values, literals, files and the pieces of a schema.
-/
import WorkbookQuery.Expr.Basic
import WorkbookQuery.File.Format
import WorkbookQuery.Json.Form
import WorkbookQuery.Schema.ColumnMap
import WorkbookQuery.Schema.Headers

namespace WorkbookQuery

open JsonValue

/-- A required field. -/
def required {α : Type} (read : JsonValue → Option α) (v : Option JsonValue) : Option α :=
  v.bind read

/-- A field that may be left out, and is none then. -/
def optional? {α : Type} (read : JsonValue → Option α) : Option JsonValue → Option (Option α)
  | none => some none
  | some v => option? read v

/-! ## Types and values -/

def ScalarType.key : ScalarType → String
  | .dateTime => "date_time"
  | t => t.name

def ScalarType.ofKey? (key : String) : Option ScalarType :=
  [.text, .integer, .float, .boolean, .dateTime, .date].find? (·.key == key)

theorem ScalarType.ofKey?_key (t : ScalarType) : ofKey? t.key = some t := by
  cases t <;> decide

instance : JsonForm ScalarType where
  write t := .ofText t.key
  read? depth v := (caseName? depth v).bind ScalarType.ofKey?

instance : JsonForm Value where
  write
    | .null => .ofText "Null"
    | .boolean b => tagged "Boolean" (.boolean b)
    | .integer n => tagged "Integer" (.ofInt n.toInt)
    | .float x => tagged "Float" ((x.jsonText?.map .number).getD .null)
    | .text s => tagged "Text" (.ofText s)
    | .dateTime t => tagged "DateTime" (.ofText t.isoText)
    | .date d => tagged "Date" (.ofText d.text)
  read? depth v := do
    match ← case? depth v with
    | (_, "Null", none) | (_, "Null", some .null) => some .null
    | (_, "Boolean", some v) => v.boolean?.map .boolean
    | (_, "Integer", some v) => (v.int?.bind Value.int64?).map .integer
    | (_, "Float", some v) => (v.numeral?.bind JsonNumeral.toBinary64?).map .float
    | (_, "Text", some v) => v.text?.map .text
    | (_, "DateTime", some v) => (v.text?.bind DateTime.ofIsoText?).map .dateTime
    | (_, "Date", some v) => (v.text?.bind Date.ofIsoText?).map .date
    | _ => none

instance : JsonForm Literal where
  write l := record [("value", JsonForm.write l.value), ("data_type", JsonForm.write l.type)]
  read? depth v := do
    match ← fields? false ["value", "data_type"] depth v with
    | (d, [value, type]) =>
      return ⟨← required (JsonForm.read? d) value, ← required (JsonForm.read? d) type⟩
    | _ => none

/-! ## Operators -/

def BinaryOp.key : BinaryOp → String
  | .eq => "Eq"
  | .ne => "Ne"
  | .lt => "Lt"
  | .le => "Le"
  | .gt => "Gt"
  | .ge => "Ge"
  | .and => "And"
  | .or => "Or"
  | .add => "Add"
  | .sub => "Sub"
  | .mul => "Mul"
  | .div => "Div"

def BinaryOp.ofKey? (key : String) : Option BinaryOp :=
  [.eq, .ne, .lt, .le, .gt, .ge, .and, .or, .add, .sub, .mul, .div].find? (·.key == key)

instance : JsonForm BinaryOp where
  write op := .ofText op.key
  read? depth v := (caseName? depth v).bind BinaryOp.ofKey?

instance : JsonForm UnaryOp where
  write
    | .not => .ofText "Not"
    | .negate => .ofText "Negate"
    | .convert t => tagged "Convert" (JsonForm.write t)
  read? depth v := do
    match ← case? depth v with
    | (_, "Not", none) | (_, "Not", some .null) => some .not
    | (_, "Negate", none) | (_, "Negate", some .null) => some .negate
    | (d, "Convert", some v) => (JsonForm.read? d v).map .convert
    | _ => none

/-! ## Files -/

instance : JsonForm FileFormat where
  write f := .ofText f.name
  read? depth v := (caseName? depth v).bind FileFormat.ofName?

instance : JsonForm WorkbookFile where
  write f := record [("path", .ofText f.path.text), ("version", JsonForm.write f.format)]
  read? depth v := do
    match ← fields? false ["path", "version"] depth v with
    | (d, [path, format]) =>
      return ⟨⟨← required text? path⟩, ← required (JsonForm.read? d) format⟩
    | _ => none

/-! ## Schema -/

/-- Texts by key; of several texts for one key the last holds. -/
def readTexts? (depth : Nat) (v : JsonValue) : Option (List (String × String)) :=
  match depth, v with
  | _ + 1, .object members => do
    (← members? members).mapM fun (k, v) => v.text?.map (k, ·)
  | _, _ => none

instance : JsonForm ColumnMap where
  write m := record [("mappings", record (m.entries.map fun (p, c) => (p, .ofText c)))]
  read? depth v := do
    match ← fields? false ["mappings"] depth v with
    | (d, [mappings]) => return .ofList (← required (readTexts? d) mappings)
    | _ => none

instance : JsonForm Headers where
  write h := record [("columns", .array (h.columns.map .ofText))]
  read? depth v := do
    match ← fields? false ["columns"] depth v with
    | (d, [columns]) =>
      let (_, items) ← required (items? d) columns
      return ⟨← items.mapM text?⟩
    | _ => none

end WorkbookQuery
