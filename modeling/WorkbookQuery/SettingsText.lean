/-
  Settings as text: reading them from JSON or TOML, and writing them as either.
-/
import WorkbookQuery.Json.SettingsForm
import WorkbookQuery.Toml.Document

namespace WorkbookQuery

namespace TomlValue

def isEmpty : TomlValue → Bool
  | .array [] | .table _ [] | .tables [] => true
  | _ => false

/-- The name of a case that has nothing with it: a text, or a table whose only entry has the
name as its key and is empty. -/
def caseName? : TomlValue → Option String
  | .text s => some s
  | .table _ [(name, v)] => if v.isEmpty then some name else none
  | _ => none

def boolean? : TomlValue → Option Bool
  | .boolean b => some b
  | _ => none

end TomlValue

namespace Settings

/-- The settings of a table. Each may be left out; other entries do not matter. -/
def ofTable? (t : TomlTable) : Option Settings := do
  let format? ← (t.lookup "file_version").mapM fun v => v.caseName?.bind FileFormat.ofName?
  let matching ← (t.lookup "contains_matching").mapM fun v =>
    v.caseName?.bind TextMatching.ofName?
  let trim ← (t.lookup "trim_text").mapM TomlValue.boolean?
  return { format?, matching := matching.getD .driverDefault, trimText := trim.getD false }

/-- The settings of a text, as JSON or else as TOML. -/
def ofText (s : String) : Except Fault Settings :=
  match (JsonForm.ofText? Settings s).or ((Toml.parse? s).bind ofTable?) with
  | some settings => .ok settings
  | none => .error (.configuration "parse error")

/-- The settings of a file with this content, which there may not be. -/
def ofFile (content : Option ByteArray) : Except Fault Settings :=
  match content with
  | none => .error (.io "No such file or directory (os error 2)")
  | some bytes =>
    match String.fromUTF8? bytes with
    | some s => ofText s
    | none => .error (.io "stream did not contain valid UTF-8")

/-- The settings as JSON, on one line. -/
def jsonText (s : Settings) : String := (JsonForm.write s).compact

/-- The settings as TOML, a line each. What is not set is left out. -/
def tomlText (s : Settings) : String :=
  let line (key value : String) := key ++ " = " ++ value ++ "\n"
  (match s.format? with
    | some f => line "file_version" ("\"" ++ f.name ++ "\"")
    | none => "") ++
    line "contains_matching" ("\"" ++ s.matching.name ++ "\"") ++
    line "trim_text" (if s.trimText then "true" else "false")

end Settings

end WorkbookQuery
