/-
  Paths of files. A path is a row of segments between slashes; empty segments and `.` say
  nothing, so that `a//b`, `a/./b` and `a/b/` lead to the same file. Only in front a `.` counts.
-/

namespace WorkbookQuery

/-- Where a path starts from. -/
inductive PathStart where
  | root
  | here
  | unmarked
  deriving DecidableEq

structure FilePath where
  text : String
  deriving DecidableEq, Inhabited

namespace FilePath

/-- The segments of a text, the parts between its slashes. -/
def segments : List Char → List (List Char)
  | [] => [[]]
  | c :: s =>
    if c = '/' then [] :: segments s
    else match segments s with
      | first :: rest => (c :: first) :: rest
      | [] => [[c]]

/-- The start of a path and what follows it. -/
def splitStart : List Char → PathStart × List Char
  | '/' :: s => (.root, s)
  | ['.'] => (.here, [])
  | '.' :: '/' :: s => (.here, '/' :: s)
  | s => (.unmarked, s)

def start (p : FilePath) : PathStart := (splitStart p.text.toList).1

/-- A segment that leads nowhere. -/
def isIdle (segment : List Char) : Bool := segment == [] || segment == ['.']

/-- The segments that lead on, from the start. -/
def steps (p : FilePath) : List String :=
  ((segments (splitStart p.text.toList).2).filter (!isIdle ·)).map String.ofList

/-- Both paths lead to the same file from the same place. -/
def same (p q : FilePath) : Bool := p.start == q.start && p.steps == q.steps

/-- The last step, unless it leads up. -/
def fileName? (p : FilePath) : Option String :=
  p.steps.getLast?.filter (· != "..")

/-- What stands after the last point of a name; a point in front does not count. -/
def extensionOfName? (name : List Char) : Option (List Char) :=
  let tail := name.reverse.takeWhile (· != '.')
  if name.length ≤ tail.length + 1 then none else some tail.reverse

def extension? (p : FilePath) : Option String :=
  p.fileName?.bind fun name => (extensionOfName? name.toList).map String.ofList

def startText : PathStart → List Char
  | .root => ['/']
  | .here => ['.']
  | .unmarked => []

/-- The segments up to the last that leads on. -/
def dropIdleEnd (segments : List (List Char)) : List (List Char) :=
  (segments.reverse.dropWhile isIdle).reverse

/-- The path without its last step, as it was written. A start alone has nothing above it,
but for `.`, which lies in the unmarked start. -/
def parent? (p : FilePath) : Option FilePath :=
  let (start, rest) := splitStart p.text.toList
  let leading := dropIdleEnd (segments rest)
  if leading = [] then
    match start with
    | .here => some ⟨""⟩
    | _ => none
  else
    let above := dropIdleEnd leading.dropLast
    some ⟨String.ofList (startText start ++ ['/'].intercalate above)⟩

end FilePath

end WorkbookQuery
