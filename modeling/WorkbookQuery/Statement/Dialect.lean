/-
  Dialects. They differ in how names are quoted, where a row limit stands, how a worksheet is
  addressed and how wildcards in a pattern are made literal.
-/
import WorkbookQuery.File.Format

namespace WorkbookQuery

/-- The character written twice wherever it occurs. -/
def doubled (c : Char) (s : List Char) : List Char :=
  s.flatMap fun d => if d = c then [c, c] else [d]

/-- `[Name]` or `"Name"`; the closing character is doubled inside. -/
inductive Quoting where
  | brackets
  | doubleQuotes
  deriving DecidableEq

def Quoting.quote : Quoting → List Char → List Char
  | .brackets, s => '[' :: doubled ']' s ++ [']']
  | .doubleQuotes, s => '"' :: doubled '"' s ++ ['"']

/-- `SELECT TOP n …` or `… LIMIT n`. -/
inductive LimitStyle where
  | top
  | limit
  deriving DecidableEq

/-- A worksheet is addressed as `Name$` or by its plain name. -/
inductive SheetReference where
  | worksheetSuffix
  | plain
  deriving DecidableEq

/-- Wildcards become classes of one character, `[%]`, or get a backslash in front. -/
inductive LikeEscape where
  | brackets
  | backslash
  deriving DecidableEq

namespace LikeEscape

def escapeChar : LikeEscape → Char → List Char
  | .brackets, c => if ['%', '_', '[', '#', '*', '?'].contains c then ['[', c, ']'] else [c]
  | .backslash, c => if ['%', '_', '\\'].contains c then ['\\', c] else [c]

/-- The text as a pattern that only it matches. -/
def escape (e : LikeEscape) (s : List Char) : List Char := s.flatMap e.escapeChar

/-- What has to follow a pattern's placeholder. -/
def clause : LikeEscape → String
  | .brackets => ""
  | .backslash => " ESCAPE '\\'"

end LikeEscape

/-- A driver is pointed at the file or at the directory it is in. -/
inductive DataSource where
  | file
  | directory
  deriving DecidableEq

/-- The text of a connection around the path of its data source. -/
structure ConnectionTemplate where
  before : String
  source : DataSource := .file
  after : String
  deriving DecidableEq

def ConnectionTemplate.fill (t : ConnectionTemplate) (path : FilePath) : String :=
  let source := match t.source with
    | .file => path.text
    | .directory => (path.parent?.map FilePath.text).getD ""
  t.before ++ source ++ t.after

structure Dialect where
  name : String
  quoting : Quoting := .brackets
  limitStyle : LimitStyle := .top
  sheetReference : SheetReference := .worksheetSuffix
  likeEscape : LikeEscape := .brackets
  /-- The function that turns text into upper case. -/
  upperFunction : String := "UCASE"
  /-- There is a comparison that tells upper from lower case. -/
  supportsInstr : Bool := true
  connection : Option ConnectionTemplate := none
  deriving DecidableEq

namespace Dialect

/-- The dialect of the driver for a file format. -/
def ofFormat : FileFormat → Dialect
  | .csv =>
    { name := "jet-text"
      sheetReference := .plain
      connection := some
        { before := "Provider=Microsoft.Jet.OLEDB.4.0;Data Source="
          source := .directory
          after := ";Extended Properties=\"text;HDR=Yes;FMT=Delimited;\"" } }
  | .preExcel2007 =>
    { name := "jet-excel8"
      connection := some
        { before := "Provider=Microsoft.Jet.OLEDB.4.0;Data Source="
          after := ";Extended Properties=\"Excel 8.0;HDR=YES;\"" } }
  | .excel2007 =>
    { name := "ace-excel12"
      connection := some
        { before := "Provider=Microsoft.ACE.OLEDB.12.0;Data Source="
          after := ";Extended Properties=\"Excel 12.0 Xml;HDR=YES\"" } }

/-- Quoted names and a trailing limit, as in the SQL standard. -/
def ansi : Dialect :=
  { name := "ansi"
    quoting := .doubleQuotes
    limitStyle := .limit
    sheetReference := .plain
    likeEscape := .backslash
    upperFunction := "UPPER"
    supportsInstr := false }

instance : Inhabited Dialect := ⟨ofFormat .excel2007⟩

def quote (d : Dialect) (name : String) : List Char := d.quoting.quote name.toList

/-- A worksheet's name with the suffix that the dialect asks for. -/
def worksheetName (d : Dialect) (worksheet : String) : String :=
  match d.sheetReference with
  | .worksheetSuffix =>
    if worksheet.toList.getLast? = some '$' then worksheet else worksheet ++ "$"
  | .plain => worksheet

def worksheetReference (d : Dialect) (worksheet : String) : List Char :=
  d.quote (d.worksheetName worksheet)

/-- The text that opens a connection to the file, for drivers that need one. -/
def connectionText? (d : Dialect) (path : FilePath) : Option String :=
  d.connection.map (·.fill path)

end Dialect

end WorkbookQuery
