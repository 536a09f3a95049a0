/-
  Statements. A selection is written in a dialect with a `?` for every constant, and the
  constants are bound in the order of their placeholders.
-/
import WorkbookQuery.Selection.Basic
import WorkbookQuery.Settings
import WorkbookQuery.Text.Upper

namespace WorkbookQuery

/-- The text of a statement, and its parameters in the order of the placeholders. -/
structure Statement where
  text : String
  parameters : List Literal
  deriving DecidableEq, Inhabited

/-- A part of a statement. -/
structure Clause where
  text : List Char
  parameters : List Literal := []
  deriving DecidableEq

namespace Clause

def words (s : String) : Clause := ⟨s.toList, []⟩

def append (a b : Clause) : Clause := ⟨a.text ++ b.text, a.parameters ++ b.parameters⟩

instance : Append Clause := ⟨append⟩

def empty : Clause := ⟨[], []⟩

@[simp] theorem text_append (a b : Clause) : (a ++ b).text = a.text ++ b.text := rfl

@[simp] theorem parameters_append (a b : Clause) :
    (a ++ b).parameters = a.parameters ++ b.parameters := rfl

/-- The placeholder of a constant. Its number has to be the number of parameters before it. -/
def placeholder (l : BoundLiteral) (value : Value) (bound : Nat) : Except Fault Clause :=
  if l.position = bound then .ok ⟨['?'], [⟨value, l.type⟩]⟩
  else .error (.invalidModel ("literal at position " ++ toString l.position ++
    " rendered as parameter " ++ toString bound))

end Clause

/-- Which end of a text a test looks at. -/
inductive Anchor where
  | anywhere
  | start
  | ending
  deriving DecidableEq

namespace Anchor

/-- The wildcards around an escaped text. -/
def pattern : Anchor → List Char → List Char
  | .anywhere, s => '%' :: s ++ ['%']
  | .start, s => s ++ ['%']
  | .ending, s => '%' :: s

end Anchor

/-- How conditions are written: a dialect and a way to compare text. -/
structure Style where
  dialect : Dialect
  matching : TextMatching

namespace Style

def name (style : Style) (n : String) : Clause := ⟨style.dialect.quote n, []⟩

/-- A comparison with a pattern, both sides in upper case when case is to be ignored. -/
def likeTest (style : Style) (fold : Bool) (column : String) (l : BoundLiteral) (text : String)
    (anchor : Anchor) (bound : Nat) : Except Fault Clause := do
  let text := if fold then Text.upper text else text
  let pattern := anchor.pattern (style.dialect.likeEscape.escape text.toList)
  let subject := if fold then
      .words style.dialect.upperFunction ++ .words "(" ++ style.name column ++
        .words ")"
    else style.name column
  return subject ++ .words " LIKE " ++
    (← Clause.placeholder l (.text (String.ofList pattern)) bound) ++
    .words style.dialect.likeEscape.clause

/-- A comparison of characters: with a part anywhere, or with as many characters at one end. -/
def exactTest (style : Style) (column : String) (l : BoundLiteral) (text : String)
    (anchor : Anchor) (bound : Nat) : Except Fault Clause := do
  let parameter ← Clause.placeholder l (.text text) bound
  let atEnd (function : String) : Clause :=
    .words "STRCOMP(" ++ .words function ++ .words "(" ++ style.name column ++
      .words (", " ++ toString text.length ++ "), ") ++ parameter ++
      .words ", 0) = 0"
  return match anchor with
    | .anywhere =>
      .words "INSTR(1, " ++ style.name column ++ .words ", " ++ parameter ++
        .words ", 0) > 0"
    | .start => atEnd "LEFT"
    | .ending => atEnd "RIGHT"

/-- A test of a column's text. Its constant has to be text. -/
def textTest (style : Style) (column : String) (l : BoundLiteral) (anchor : Anchor)
    (bound : Nat) : Except Fault Clause :=
  match l.value with
  | .text text =>
    match style.matching with
    | .caseSensitive => style.exactTest column l text anchor bound
    | .caseInsensitive => style.likeTest true column l text anchor bound
    | .driverDefault => style.likeTest false column l text anchor bound
  | v => .error (.invalidModel ("pattern literal " ++ v.display ++ " is not text"))

/-- A condition, after `bound` parameters. -/
def filter (style : Style) : Filter → Nat → Except Fault Clause
  | .comparison column op (.literal l), bound => do
    return style.name column ++ .words (" " ++ op.symbol ++ " ") ++
      (← Clause.placeholder l l.value bound)
  | .comparison column op (.column other), _ =>
    return style.name column ++ .words (" " ++ op.symbol ++ " ") ++ style.name other
  | .and left right, bound => do
    let l ← style.filter left bound
    let r ← style.filter right (bound + l.parameters.length)
    return .words "(" ++ l ++ .words " AND " ++ r ++ .words ")"
  | .or left right, bound => do
    let l ← style.filter left bound
    let r ← style.filter right (bound + l.parameters.length)
    return .words "(" ++ l ++ .words " OR " ++ r ++ .words ")"
  | .not inner, bound => do
    return .words "(NOT " ++ (← style.filter inner bound) ++ .words ")"
  | .contains column l, bound => style.textTest column l .anywhere bound
  | .startsWith column l, bound => style.textTest column l .start bound
  | .endsWith column l, bound => style.textTest column l .ending bound
  | .isNull column, _ => return style.name column ++ .words " IS NULL"
  | .isNotNull column, _ => return style.name column ++ .words " IS NOT NULL"

end Style

namespace Dialect

/-- Texts with a comma and a space between them. -/
def commaSeparated (texts : List (List Char)) : List Char := [',', ' '].intercalate texts

def projectedColumn (d : Dialect) (c : ProjectedColumn) : List Char :=
  d.quote c.column ++ match c.alias? with
    | some a => " AS ".toList ++ d.quote a
    | none => []

def projection (d : Dialect) : Projection → List Char
  | .all => ['*']
  | .columns columns => commaSeparated (columns.map d.projectedColumn)

def orderKey (d : Dialect) (k : OrderKey) : List Char :=
  d.quote k.column ++ match k.direction with
    | .ascending => " ASC".toList
    | .descending => " DESC".toList

def ordering (d : Dialect) : List OrderKey → List Char
  | [] => []
  | keys => " ORDER BY ".toList ++ commaSeparated (keys.map d.orderKey)

/-- The limit in front of the columns. -/
def leadingLimit (d : Dialect) (limit : Option Nat) : List Char :=
  match d.limitStyle, limit with
  | .top, some n => "TOP ".toList ++ (toString n).toList ++ [' ']
  | _, _ => []

/-- The limit at the end of the statement. -/
def trailingLimit (d : Dialect) (limit : Option Nat) : List Char :=
  match d.limitStyle, limit with
  | .limit, some n => " LIMIT ".toList ++ (toString n).toList
  | _, _ => []

end Dialect

namespace Statement

/-- The condition of a statement with the keyword in front of it. -/
def condition (style : Style) : Option Filter → Except Fault Clause
  | some f => do return .words " WHERE " ++ (← style.filter f 0)
  | none => .ok .empty

/-- The statement of a selection. -/
def ofSelection (s : Selection) (d : Dialect) (settings : Settings) : Except Fault Statement := do
  settings.validate d
  let condition ← condition ⟨d, settings.matching⟩ s.filter
  let text := "SELECT ".toList ++ d.leadingLimit s.limit ++ d.projection s.projection ++
    " FROM ".toList ++ d.worksheetReference s.worksheet ++ condition.text ++
    d.ordering s.ordering ++ d.trailingLimit s.limit
  return ⟨String.ofList text, condition.parameters⟩

end Statement

end WorkbookQuery
