/-
  Settings of the translation, and which of them a dialect admits.
-/
import WorkbookQuery.Statement.Dialect

namespace WorkbookQuery

/-- How text tests compare. -/
inductive TextMatching where
  /-- As the driver does. -/
  | driverDefault
  /-- Both sides in upper case. -/
  | caseInsensitive
  /-- Character by character. -/
  | caseSensitive
  deriving DecidableEq, Inhabited

namespace TextMatching

def name : TextMatching → String
  | .driverDefault => "driver_default"
  | .caseInsensitive => "case_insensitive"
  | .caseSensitive => "case_sensitive"

def ofName? (name : String) : Option TextMatching :=
  match name with
  | "driver_default" => some .driverDefault
  | "case_insensitive" => some .caseInsensitive
  | "case_sensitive" => some .caseSensitive
  | _ => none

theorem ofName?_name (t : TextMatching) : ofName? t.name = some t := by cases t <;> rfl

/-- The matching that a text names, in any case and with blank characters around it. -/
def ofText (s : String) : Except Fault TextMatching :=
  let name := Text.lowerAscii (Text.trimmed s)
  match if name = "default" then some .driverDefault else ofName? name with
  | some t => .ok t
  | none => .error (.configuration ("unknown contains matching '" ++ name ++ "'"))

end TextMatching

structure Settings where
  /-- Takes the place of the format that the file's extension tells. -/
  format? : Option FileFormat := none
  matching : TextMatching := .driverDefault
  /-- Trim text cells before they are assigned to fields. -/
  trimText : Bool := false
  deriving DecidableEq, Inhabited

namespace Settings

/-- The settings that environment variables ask for. -/
def ofVariables (format matching trim : Option String) : Except Fault Settings := do
  let format? ← format.mapM FileFormat.ofText
  let matching ← matching.mapM TextMatching.ofText
  let trimText := (trim.map fun t => ["1", "true", "yes"].contains (Text.trimmed t)).getD false
  return { format?, matching := matching.getD .driverDefault, trimText }

/-- The format to read a file as. -/
def formatFor (s : Settings) (detected : FileFormat) : FileFormat := s.format?.getD detected

def dialectFor (s : Settings) (detected : FileFormat) : Dialect :=
  .ofFormat (s.formatFor detected)

/-- Character by character needs a dialect that can. -/
def admits (s : Settings) (d : Dialect) : Bool :=
  s.matching != .caseSensitive || d.supportsInstr

def validate (s : Settings) (d : Dialect) : Except Fault Unit :=
  if s.admits d then .ok ()
  else .error (.configuration
    ("case-sensitive matching is not available for the '" ++ d.name ++ "' dialect"))

end Settings

end WorkbookQuery
