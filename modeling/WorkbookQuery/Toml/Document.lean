/-
  Reading TOML documents. Arrays and tables in braces may be nested up to a depth of 79.
-/
import WorkbookQuery.Toml.Basic
import WorkbookQuery.Toml.Scalar
import WorkbookQuery.Toml.Text

namespace WorkbookQuery.Toml

/-! ## Values -/

/-- The characters of a word that stands for a value. -/
def isWordChar (c : Char) : Bool :=
  c.isAlphanum || c == '+' || c == '-' || c == '_' || c == '.' || c == ':'

/-- A value that is one word, or a date and a time with a space between them. -/
def word? (s : List Char) : Option (TomlValue × List Char) :=
  let w := s.takeWhile isWordChar
  let rest := s.drop w.length
  if w == "true".toList then some (.boolean true, rest)
  else if w == "false".toList then some (.boolean false, rest)
  else if isDate w then
    let time := (rest.drop 1).takeWhile isWordChar
    if rest.head? = some ' ' ∧ isTimeOfDate time then some (.other, rest.drop (time.length + 1))
    else some (.other, rest)
  else if isScalar w then some (.other, rest)
  else none

/-- The values of an array up to its end, at most `n`. -/
def items? (value : Reader TomlValue) : (n : Nat) → Reader (List TomlValue)
  | 0, _ => none
  | n + 1, s =>
    match skipGaps s with
    | ']' :: s => some ([], s)
    | s => do
      let (v, s) ← value s
      match skipGaps s with
      | ',' :: s => do
        let (vs, s) ← items? value n s
        return (v :: vs, s)
      | ']' :: s => return ([v], s)
      | _ => none

/-- The entries of a table in braces up to its end, at most `n`, after those in `t`. -/
def keyValues? (value : Reader TomlValue) : (n : Nat) → TomlTable → Reader TomlTable
  | 0, _, _ => none
  | n + 1, t, s => do
    let ((path, key), s) ← key? s
    match s with
    | '=' :: s => do
      let (v, s) ← value (skipSpace s)
      let t ← t.put path key v
      match skipSpace s with
      | ',' :: s => keyValues? value n t s
      | '}' :: s => return (t, s)
      | _ => none
    | _ => none

/-- A table in braces, on one line. -/
def braces? (value : Reader TomlValue) (s : List Char) : Option (TomlTable × List Char) :=
  match skipSpace s with
  | '}' :: s => some ([], s)
  | s => keyValues? value (s.length + 1) [] s

/-- A value with at most `depth` arrays and tables inside of each other. -/
def value? : (depth : Nat) → Reader TomlValue
  | depth, s =>
    match s with
    | '"' :: _ | '\'' :: _ => (string? s).map fun (t, s) => (.text t, s)
    | '[' :: s =>
      match depth with
      | 0 => none
      | d + 1 => (items? (value? d) (s.length + 1) s).map fun (vs, s) => (.array vs, s)
    | '{' :: s =>
      match depth with
      | 0 => none
      | d + 1 => (braces? (value? d) s).map fun (t, s) => (.table .braces t, s)
    | s => word? s

/-! ## Documents -/

/-- The document so far, and the path of the table that entries go to. -/
structure State where
  root : TomlTable := []
  path : List String := []

/-- A key, an equals sign and a value on one line. -/
def keyValue? (st : State) (s : List Char) : Option (State × List Char) := do
  let ((path, key), s) ← key? s
  match s with
  | '=' :: s => do
    let (v, s) ← value? 79 (skipSpace s)
    let root ← st.root.update (·.put path key v) st.path
    return ({ st with root }, ← lineEnd? s)
  | _ => none

/-- A header on one line: of a table, or with two brackets of an element of an array. -/
def header? (st : State) (s : List Char) : Option (State × List Char) :=
  match s with
  | '[' :: '[' :: s => do
    let ((path, key), s) ← key? s
    match s with
    | ']' :: ']' :: s => do
      let root ← st.root.update (·.openElement key) path
      return (⟨root, path ++ [key]⟩, ← lineEnd? s)
    | _ => none
  | '[' :: s => do
    let ((path, key), s) ← key? s
    match s with
    | ']' :: s => do
      let root ← st.root.update (·.openTable key) path
      return (⟨root, path ++ [key]⟩, ← lineEnd? s)
    | _ => none
  | _ => none

/-- The lines of a document, at most `n`. -/
def lines? : (n : Nat) → State → List Char → Option State
  | 0, _, _ => none
  | n + 1, st, s =>
    let s := skipSpace s
    match s with
    | [] => some st
    | '[' :: _ => (header? st s).bind fun (st, s) => lines? n st s
    | '#' :: _ | '\n' :: _ | '\r' :: _ => (lineEnd? s).bind (lines? n st)
    | _ => (keyValue? st s).bind fun (st, s) => lines? n st s

/-- The root table of a document. A byte order mark may stand in front. -/
def parse? (s : String) : Option TomlTable :=
  let s := match s.toList with
    | '\uFEFF' :: s => s
    | s => s
  (lines? (s.length + 1) {} s).map State.root

end WorkbookQuery.Toml
