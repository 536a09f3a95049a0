/-
  Materialization: raw rows become records of a shape, or rows without a type.
-/
import WorkbookQuery.Expr.Basic
import WorkbookQuery.Record.Basic
import WorkbookQuery.Row
import WorkbookQuery.RowSource
import WorkbookQuery.Schema.ColumnMap

namespace WorkbookQuery

/-- What the rows of a result become. -/
inductive Target where
  | rows
  | records (shape : RecordShape)

namespace Target

abbrev Item : Target → Type
  | .rows => Row
  | .records shape => Record shape.fields

def element : Target → Element
  | .rows => .dynamic
  | .records shape => .typed shape.name

end Target

/-- A row has one value per column; `n` is its number. -/
def checkWidth (headers : Headers) (n : Nat) (row : RawRow) : Except Fault Unit :=
  if row.length = headers.width then .ok ()
  else .error (.execution ("row " ++ toString n ++ " has " ++ toString row.length ++
    " values but the result has " ++ toString headers.width ++ " columns"))

/-- A raw row under its headers. -/
def Row.ofRaw (headers : Headers) (n : Nat) (row : RawRow) : Except Fault Row := do
  checkWidth headers n row
  return ⟨row.map Cell.mk, headers.index⟩

/-- A field that is read from a column of the result. -/
structure Binding (fields : List Field) where
  field : Fin fields.length
  column : String
  position : Nat

namespace Binding

variable {fields : List Field}

/-- The fields whose columns there are. Several fields may read one column. -/
def all (fields : List Field) (headers : Headers) (m : ColumnMap) : List (Binding fields) :=
  (List.finRange fields.length).filterMap fun i =>
    let column := m.resolve fields[i].name
    (headers.position? column).map fun position => ⟨i, column, position⟩

/-- The raw value that the field is assigned from. -/
def raw (b : Binding fields) (trim : Bool) (row : RawRow) : Value :=
  match row[b.position]?.getD .null with
  | .text s => if trim then .text (Text.trimmed s) else .text s
  | v => v

/-- The value does not fit the field. -/
def mismatch (b : Binding fields) (n : Nat) (v : Value) : Fault :=
  .columnMismatch b.column fields[b.field].type.scalar n v.display

/-- Convert the value and put it into the field. -/
def assign (b : Binding fields) (n : Nat) (v : Value) (r : Record fields) :
    Except Fault (Record fields) :=
  let type := fields[b.field].type
  if v.isNull && !type.nullable then .error (b.mismatch n v)
  else match v.coerce type.scalar with
    | .error _ => .error (b.mismatch n v)
    | .ok w =>
      match r.set? b.field w with
      | some r => .ok r
      | none => .error (b.mismatch n v)

end Binding

/-- A record of a raw row: every bound field in the order of declaration, and the others as
they are in the record to start from. -/
def Record.ofRaw {fields : List Field} (headers : Headers) (bindings : List (Binding fields))
    (start : Record fields) (trim : Bool) (n : Nat) (row : RawRow) :
    Except Fault (Record fields) := do
  checkWidth headers n row
  bindings.foldlM (fun r b => b.assign n (b.raw trim row) r) start

/-- What becomes of one raw row. -/
def Target.make (headers : Headers) (m : ColumnMap) (trim : Bool) :
    (t : Target) → Nat → RawRow → Except Fault t.Item
  | .rows => Row.ofRaw headers
  | .records shape =>
    Record.ofRaw headers (Binding.all shape.fields headers m) shape.default trim

/-- Everything a source yields, materialized. The first failure is the result. -/
def materialize {σ : Type} [RowSource σ] (t : Target) (headers : Headers) (m : ColumnMap)
    (trim : Bool) : EStateM Fault σ (List t.Item) :=
  RowSource.collect (t.make headers m trim) 1

end WorkbookQuery
