/-
  Cells and rows without a declared type. A cell keeps its raw value and converts it each time
  it is asked.
-/
import WorkbookQuery.Record.Field
import WorkbookQuery.Schema.Headers

namespace WorkbookQuery

structure Cell where
  value : Value
  deriving DecidableEq, Inhabited

namespace Cell

/-- The cell as a field of the given type would hold it. -/
def cast (c : Cell) (t : FieldType) : Except Fault t.Carrier := do
  match t.ofValue? (← c.value.coerce t.scalar) with
  | some x => return x
  | none => throw (Fault.ofConversion c.value t.scalar)

def asText (c : Cell) : Except Fault String := c.cast ⟨.text, false⟩

def asNumber (c : Cell) : Except Fault Binary64 := c.cast ⟨.float, false⟩

def asInteger (c : Cell) : Except Fault Int64 := c.cast ⟨.integer, false⟩

def asBoolean (c : Cell) : Except Fault Bool := c.cast ⟨.boolean, false⟩

def asDateTime (c : Cell) : Except Fault DateTime := c.cast ⟨.dateTime, false⟩

def asDate (c : Cell) : Except Fault Date := c.cast ⟨.date, false⟩

/-- What the cell shows: nothing for null, and text as it is. -/
def display (c : Cell) : String := c.value.render

end Cell

/-- Cells in the order of the columns, with the positions of the headers. -/
structure Row where
  cells : List Cell
  index : HeaderIndex
  deriving DecidableEq, Inhabited

namespace Row

/-- The cell under a header. -/
def cell (r : Row) (column : String) : Except Fault Cell :=
  match (r.index.position? column).bind (r.cells[·]?) with
  | some c => .ok c
  | none => .error (.columnNotFound column)

def width (r : Row) : Nat := r.cells.length

def get? (r : Row) (i : Nat) : Option Cell := r.cells[i]?

/-- The different headers in the order of their columns. -/
def columnNames (r : Row) : List String := r.index.names

end Row

end WorkbookQuery
