/-
  A driver in memory. It serves the worksheets that were put into it, picks the worksheet and
  the columns that a statement names, and does not look at conditions, order or limit. It keeps
  the statements that were run, and can be closed while cursors are open.
-/
import WorkbookQuery.Session.Driver
import WorkbookQuery.Statement.Placeholder
import WorkbookQuery.Statement.Select

namespace WorkbookQuery

/-- The headers and the raw rows of a worksheet. Rows may be short or long. -/
structure Sheet where
  columns : List String
  rows : List RawRow := []
  deriving DecidableEq, Inhabited

structure StoredSheet where
  path : FilePath
  worksheet : String
  sheet : Sheet
  deriving DecidableEq

structure Store where
  sheets : List StoredSheet := []
  /-- The statements run so far, oldest first. -/
  executed : List Statement := []
  /-- The number of rows after which a cursor closes the store. -/
  abortAfter : Option Nat := none
  closed : Bool := false
  deriving DecidableEq, Inhabited

namespace Store

/-! ## Contents -/

def StoredSheet.isAt (path : FilePath) (worksheet : String) (s : StoredSheet) : Bool :=
  s.path.same path && s.worksheet == worksheet

/-- Put a worksheet into a file, in place of an earlier one of that name. -/
def addSheet (path : FilePath) (worksheet : String) (sheet : Sheet) (s : Store) : Store :=
  { s with sheets := ⟨path, worksheet, sheet⟩ ::
      s.sheets.filter fun t => !StoredSheet.isAt path worksheet t }

def sheet? (s : Store) (path : FilePath) (worksheet : String) : Option Sheet :=
  (s.sheets.find? (StoredSheet.isAt path worksheet)).map StoredSheet.sheet

/-- There is a worksheet in the file. -/
def hasFile (s : Store) (path : FilePath) : Bool := s.sheets.any (·.path.same path)

def close (s : Store) : Store := { s with closed := true }

/-- Close the store once a cursor has served this many rows. -/
def closeAfterRows (rows : Nat) (s : Store) : Store := { s with abortAfter := some rows }

@[simp] theorem abortAfter_closeAfterRows (rows : Nat) (s : Store) :
    (s.closeAfterRows rows).abortAfter = some rows := rfl

/-! ## Statements -/

structure Connection where
  path : FilePath
  deriving DecidableEq

/-- The rows still to be served, and how many were. -/
structure Cursor where
  rows : List RawRow
  served : Nat := 0
  abortAfter : Option Nat
  deriving DecidableEq

def connect (file : WorkbookFile) (_dialect : Dialect) : EStateM Fault Store Connection := fun s =>
  if s.closed then .error (.connection "driver has been closed") s
  else if s.hasFile file.path then .ok ⟨file.path⟩ s
  else .error (.connection ("file not found: " ++ file.path.text)) s

/-- Where a worksheet has the columns that a statement names. -/
def positions (columns : List String) : List (String × Option String) → Except Fault (List Nat)
  | [] => .ok []
  | (column, _) :: rest =>
    match columns.idxOf? column with
    | some i => do return i :: (← positions columns rest)
    | none => .error (.execution ("no value given for column '" ++ column ++ "'"))

/-- The values at the given places; a row that is too short has null there. -/
def pick (indices : List Nat) (row : RawRow) : RawRow := indices.map fun i => row[i]?.getD .null

/-- The headers and rows of a worksheet that a statement asks for. -/
def project (sheet : Sheet) : Option (List (String × Option String)) →
    Except Fault (Headers × List RawRow)
  | none =>
    .ok (⟨sheet.columns⟩, sheet.rows.map (pick (List.range sheet.columns.length)))
  | some columns => do
    let indices ← positions sheet.columns columns
    return (⟨columns.map fun (column, a) => a.getD column⟩, sheet.rows.map (pick indices))

/-- The result of a statement on the worksheets of a file. -/
def answer (s : Store) (path : FilePath) (statement : Statement) :
    Except Fault (Headers × Cursor) := do
  let placeholders := statement.placeholderCount
  if placeholders ≠ statement.parameters.length then
    throw (.execution ("statement has " ++ toString placeholders ++ " placeholders but " ++
      toString statement.parameters.length ++ " parameters were bound"))
  let target ← SelectTarget.ofText statement.text
  match s.sheet? path target.worksheet with
  | none =>
    throw (.execution ("worksheet '" ++ target.worksheet ++ "' does not exist in " ++ path.text))
  | some sheet =>
    let (headers, rows) ← project sheet target.columns
    return (headers, { rows, abortAfter := s.abortAfter })

/-- Run a statement. It is kept before it is looked at. -/
def execute (connection : Connection) (statement : Statement) :
    EStateM Fault Store (Headers × Cursor) := fun s =>
  if s.closed then .error (.aborted "connection closed") s
  else
    let s := { s with executed := s.executed ++ [statement] }
    match s.answer connection.path statement with
    | .ok result => .ok result s
    | .error e => .error e s

/-- The store when a cursor is about to be read. -/
def beforeRead (c : Cursor) (s : Store) : Store :=
  if c.abortAfter = some c.served then s.close else s

/-- Read one row. -/
def read : EStateM Fault (Cursor × Store) (Option RawRow) := fun (c, s) =>
  let s := beforeRead c s
  if s.closed then
    .error (.aborted ("connection closed after " ++ toString c.served ++ " rows")) (c, s)
  else match c.rows with
    | [] => .ok none (c, s)
    | row :: rest => .ok (some row) ({ c with rows := rest, served := c.served + 1 }, s)

instance : RowSource (Cursor × Store) where
  next := read
  remaining s := s.1.rows.length
  remaining_lt {s t row} h := by
    obtain ⟨c, s⟩ := s
    simp only [read] at h
    split at h
    · simp at h
    · split at h
      · simp at h
      · next hr =>
        simp only [EStateM.Result.ok.injEq, Option.some.injEq] at h
        obtain ⟨_, rfl⟩ := h
        simp [hr]

instance : Driver Store where
  Connection := Connection
  Cursor := Cursor
  connect := connect
  execute := execute
  source := inferInstance

end Store

end WorkbookQuery
