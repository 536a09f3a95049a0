/-
  Reading a statement as far as a driver without conditions needs it: the columns, and the
  worksheet they come from.
-/
import WorkbookQuery.Statement.Token

namespace WorkbookQuery

/-- The columns of a statement with their names in the result, or none for all of them. -/
structure SelectTarget where
  columns : Option (List (String × Option String))
  worksheet : String
  deriving DecidableEq

namespace Token

/-- The word, in any case. A quoted name is never a keyword. -/
def isKeyword (keyword : String) : Token → Bool
  | .word w => Text.sameIgnoringCase w keyword
  | _ => false

def identifier? : Token → Option String
  | .word w => some w
  | .quoted name => some name
  | .symbol _ => none

end Token

namespace SelectTarget

/-- What a list of columns expects next. -/
inductive Expected where
  | column
  /-- `AS`, a comma or the end of the list, after a column. -/
  | alias (column : String)
  /-- The name after `AS`. -/
  | aliasName (column : String)
  /-- A comma or the end of the list, after a column with another name. -/
  | comma (column aliasName : String)
  deriving DecidableEq

/-- Columns with commas between them, and the tokens behind them. -/
def readColumns? : Expected → List Token →
    Option (List (String × Option String) × List Token)
  | .column, [] => none
  | .column, t :: rest => t.identifier?.bind fun c => readColumns? (.alias c) rest
  | .alias c, [] => some ([(c, none)], [])
  | .alias c, t :: rest =>
    if t.isKeyword "AS" then readColumns? (.aliasName c) rest
    else if t = .symbol ',' then
      (readColumns? .column rest).map fun (columns, rest) => ((c, none) :: columns, rest)
    else some ([(c, none)], t :: rest)
  | .aliasName _, [] => none
  | .aliasName c, t :: rest => t.identifier?.bind fun a => readColumns? (.comma c a) rest
  | .comma c a, [] => some ([(c, some a)], [])
  | .comma c a, t :: rest =>
    if t = .symbol ',' then
      (readColumns? .column rest).map fun (columns, rest) => ((c, some a) :: columns, rest)
    else some ([(c, some a)], t :: rest)

/-- The columns, which may be a `*`. -/
def readProjection? : List Token →
    Option (Option (List (String × Option String)) × List Token)
  | .symbol '*' :: rest => some (none, rest)
  | ts => (readColumns? .column ts).map fun (columns, rest) => (some columns, rest)

/-- The tokens without a leading limit: its keyword and whatever follows. -/
def skipTop : List Token → List Token
  | t :: rest => if t.isKeyword "TOP" then rest.tail else t :: rest
  | [] => []

/-- A worksheet's name without the suffix that marks it as one. -/
def stripSuffix (reference : String) : String :=
  if reference.toList.getLast? = some '$' then String.ofList reference.toList.dropLast
  else reference

/-- The worksheet after `FROM`. What follows it is not read. -/
def readFrom? : List Token → Option String
  | t :: reference :: _ =>
    if t.isKeyword "FROM" then reference.identifier?.map stripSuffix else none
  | _ => none

def ofTokens? : List Token → Option SelectTarget
  | t :: rest =>
    if t.isKeyword "SELECT" then do
      let (columns, rest) ← readProjection? (skipTop rest)
      return ⟨columns, ← readFrom? rest⟩
    else none
  | [] => none

/-- The target of a statement's text. -/
def ofText (text : String) : Except Fault SelectTarget := do
  match ofTokens? (← Token.scan text.toList) with
  | some target => return target
  | none => throw (.execution ("syntax error in statement: " ++ text))

end SelectTarget

end WorkbookQuery
