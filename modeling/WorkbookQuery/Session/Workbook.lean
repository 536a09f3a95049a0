/-
  Workbooks. A query is translated for the workbook's dialect, run by a driver and read into
  what the query's type says.
-/
import WorkbookQuery.Query
import WorkbookQuery.Session.Driver

namespace WorkbookQuery

structure Workbook where
  file : WorkbookFile
  settings : Settings
  dialect : Dialect
  deriving DecidableEq, Inhabited

namespace Workbook

/-- The workbook at a path, its format told by the extension. -/
def ofPath (path : FilePath) : Except Fault Workbook := do
  let file ← WorkbookFile.ofPath path
  return ⟨file, {}, ({} : Settings).dialectFor file.format⟩

/-- The workbook under other settings, if the dialect that they lead to admits them. -/
def withSettings (w : Workbook) (settings : Settings) : Except Fault Workbook := do
  let dialect := settings.dialectFor w.file.format
  settings.validate dialect
  return { w with settings, dialect }

/-- A text file holds one table, which goes by the name of the file. -/
def worksheetName (w : Workbook) (requested : String) : String :=
  match w.settings.formatFor w.file.format, w.file.path.fileName? with
  | .csv, some name => name
  | _, _ => requested

def worksheet (w : Workbook) (t : Target) (name : String) : Query t :=
  Query.ofWorksheet t (w.worksheetName name)

/-- The first worksheet. -/
def defaultWorksheet (w : Workbook) (t : Target) : Query t := w.worksheet t "Sheet1"

/-- A worksheet as rows without a type. -/
def rows (w : Workbook) (name : String) : Query .rows := w.worksheet .rows name

variable {t : Target} {δ : Type} [Driver δ]

def translate (w : Workbook) (q : Query t) : Except Fault Translation :=
  q.translate w.dialect w.settings

/-- The translation of a query whose rows become what its type says. -/
def plan (w : Workbook) (q : Query t) : Except Fault Translation := do
  let translation ← w.translate q
  let element := translation.selection.element
  if element.isDynamic = t.element.isDynamic then return translation
  else throw (.invalidModel ("query materializes " ++ element.describe ++
    " but was requested as " ++ t.element.describe))

/-- Read a cursor up to a limit and materialize its rows. -/
def readAll (w : Workbook) (q : Query t) (headers : Headers) (limit : Option Nat)
    (cursor : Driver.Cursor δ) : EStateM Fault δ (List t.Item) := fun s =>
  let source : Limited (Driver.Cursor δ × δ) := ⟨(cursor, s), limit⟩
  match materialize t headers q.columns w.settings.trimText source with
  | .ok items left => .ok items left.source.2
  | .error e left => .error e left.source.2

/-- Run a query and materialize every row up to its limit. A query that does not translate
never reaches the driver. -/
def execute (w : Workbook) (q : Query t) : EStateM Fault δ (List t.Item) := do
  match w.plan q with
  | .error e => throw e
  | .ok translation =>
    let connection ← Driver.connect w.file w.dialect
    let (headers, cursor) ← Driver.execute connection translation.statement
    let items ← w.readAll q headers translation.selection.limit cursor
    if items.isEmpty ∧ translation.selection.cardinality = .first then throw .noRows
    return items

/-- The first row of the result; a result without rows is a fault. -/
def first (w : Workbook) (q : Query t) : EStateM Fault δ t.Item := do
  match ← w.execute q.first with
  | item :: _ => return item
  | [] => throw .noRows

/-- The first row of the result, if there is one. -/
def firstOrDefault (w : Workbook) (q : Query t) : EStateM Fault δ (Option t.Item) := do
  return (← w.execute q.firstOrDefault).head?

end Workbook

end WorkbookQuery
