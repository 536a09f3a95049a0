/-
  Formats of workbook files, and workbook files with their format.
-/
import WorkbookQuery.Fault
import WorkbookQuery.File.Path

namespace WorkbookQuery

inductive FileFormat where
  | csv
  | preExcel2007
  | excel2007
  deriving DecidableEq, Inhabited

namespace FileFormat

def name : FileFormat → String
  | .csv => "csv"
  | .preExcel2007 => "pre_excel_2007"
  | .excel2007 => "excel_2007"

/-- The format of files with this extension. -/
def ofExtension? (extension : String) : Option FileFormat :=
  match extension with
  | "csv" => some .csv
  | "xls" => some .preExcel2007
  | "xlsx" | "xlsm" | "xlsb" => some .excel2007
  | _ => none

/-- The format that the path's extension stands for, in any case. -/
def ofPath (p : FilePath) : Except Fault FileFormat :=
  match p.extension?.map Text.lowerAscii with
  | none => .error (.configuration ("'" ++ p.text ++ "' has no file extension"))
  | some extension =>
    match ofExtension? extension with
    | some f => .ok f
    | none => .error (.configuration ("unsupported workbook extension '." ++ extension ++ "'"))

/-- The format of a name, which may also be an extension. -/
def ofName? (name : String) : Option FileFormat :=
  match name with
  | "csv" => some .csv
  | "pre_excel_2007" | "xls" => some .preExcel2007
  | "excel_2007" | "xlsx" => some .excel2007
  | _ => none

theorem ofName?_name (f : FileFormat) : ofName? f.name = some f := by cases f <;> rfl

/-- The format that a text names, in any case and with blank characters around it. -/
def ofText (s : String) : Except Fault FileFormat :=
  let name := Text.lowerAscii (Text.trimmed s)
  match ofName? name with
  | some f => .ok f
  | none => .error (.configuration ("unknown file version '" ++ name ++ "'"))

end FileFormat

/-- A workbook's path and the format that it is read as. -/
structure WorkbookFile where
  path : FilePath
  format : FileFormat
  deriving DecidableEq, Inhabited

/-- The file of a path, its format told by the extension. -/
def WorkbookFile.ofPath (p : FilePath) : Except Fault WorkbookFile :=
  return ⟨p, ← FileFormat.ofPath p⟩

end WorkbookQuery
