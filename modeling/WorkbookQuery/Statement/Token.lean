/-
  Tokens of a statement: words, quoted names and single symbols. Text literals are passed over;
  each leaves one symbol, its quotation mark.
-/
import WorkbookQuery.Fault
import WorkbookQuery.Text.Letters

namespace WorkbookQuery

inductive Token where
  | word (w : String)
  | quoted (name : String)
  | symbol (c : Char)
  deriving DecidableEq

namespace Token

/-- The characters of words and plain names. -/
def isWordChar (c : Char) : Bool :=
  Text.isAlphanumeric c || c == '_' || c == '$' || c == '.'

/-- What has been read of the current token, its last character first. A closed quotation is
not over until the next character is another one. -/
inductive Mode where
  | between
  | word (w : List Char)
  | quoted (close : Char) (name : List Char)
  | quotedEnd (close : Char) (name : List Char)
  | literal
  | literalEnd
  deriving DecidableEq

namespace Mode

/-- A character at which no token is open. -/
def start (c : Char) : List Token × Mode :=
  if Text.isBlank c then ([], between)
  else if c = '[' then ([], quoted ']' [])
  else if c = '"' then ([], quoted '"' [])
  else if c = '\'' then ([], literal)
  else if isWordChar c then ([], word [c])
  else ([symbol c], between)

/-- A finished token and a character after it. -/
def closed (t : Token) (c : Char) : List Token × Mode :=
  let (ts, m) := start c
  (t :: ts, m)

/-- The tokens that a character finishes, and the mode after it. -/
def next : Mode → Char → List Token × Mode
  | between, c => start c
  | word w, c =>
    if isWordChar c then ([], word (c :: w)) else closed (.word (String.ofList w.reverse)) c
  | quoted close name, c =>
    if c = close then ([], quotedEnd close name) else ([], quoted close (c :: name))
  | quotedEnd close name, c =>
    if c = close then ([], quoted close (c :: name))
    else closed (.quoted (String.ofList name.reverse)) c
  | literal, c => if c = '\'' then ([], literalEnd) else ([], literal)
  | literalEnd, c => if c = '\'' then ([], literal) else closed (.symbol '\'') c

def unterminated (close : Char) : Fault :=
  .execution ("unterminated " ++ String.singleton close ++ " in statement")

/-- The token that the end of the text finishes. -/
def finish : Mode → Except Fault (List Token)
  | between => .ok []
  | word w => .ok [.word (String.ofList w.reverse)]
  | quoted close _ => .error (unterminated close)
  | quotedEnd _ name => .ok [.quoted (String.ofList name.reverse)]
  | literal => .error (unterminated '\'')
  | literalEnd => .ok [.symbol '\'']

def scan : Mode → List Char → Except Fault (List Token)
  | m, [] => m.finish
  | m, c :: s => do
    let (ts, m) := m.next c
    return ts ++ (← m.scan s)

end Mode

/-- The tokens of a text. -/
def scan (s : List Char) : Except Fault (List Token) := Mode.between.scan s

end Token

end WorkbookQuery
