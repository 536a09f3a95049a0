/-
  TOML documents as tables of values. Only the texts and truth values of a document are kept;
  of a number, a date or a time nothing but that it is one.
-/

namespace WorkbookQuery

/-- How a table came about, which decides what may still be added to it. -/
inductive TableOrigin where
  /-- Written in braces, and complete. -/
  | braces
  /-- Opened by a header of its own. -/
  | header
  /-- Named on the way to another table in a header. -/
  | implied
  /-- Named in front of the last part of a dotted key. -/
  | dotted
  deriving DecidableEq

inductive TomlValue where
  | text (s : String)
  | boolean (b : Bool)
  | other
  | array (items : List TomlValue)
  | table (origin : TableOrigin) (entries : List (String × TomlValue))
  /-- The elements of an array of tables, the last first. -/
  | tables (elements : List (List (String × TomlValue)))
  deriving Inhabited

abbrev TomlTable := List (String × TomlValue)

namespace TomlTable

/-- The value of a key exchanged for another. -/
def replace (t : TomlTable) (key : String) (v : TomlValue) : TomlTable :=
  t.map fun e => if e.1 = key then (key, v) else e

/-- Enter a value under a dotted key, given by the parts before the last and the last. Values
are entered once, and a dotted key reaches only into what dotted keys and headers left open. -/
def put (t : TomlTable) : (path : List String) → (key : String) → (v : TomlValue) →
    Option TomlTable
  | [], key, v =>
    match t.lookup key with
    | some _ => none
    | none => some (t ++ [(key, v)])
  | k :: path, key, v =>
    match t.lookup k with
    | none => do return t ++ [(k, .table .dotted (← put [] path key v))]
    | some (.table .dotted u) => do return t.replace k (.table .dotted (← put u path key v))
    | some (.table .implied u) =>
      if path = [] then none
      else do return t.replace k (.table .implied (← put u path key v))
    | some (.tables (u :: rest)) =>
      if path = [] then none
      else do return t.replace k (.tables ((← put u path key v) :: rest))
    | some _ => none

/-- Change the table at a path of headers, entering the tables on the way to it. An array of
tables stands for its last element. -/
def update (f : TomlTable → Option TomlTable) (t : TomlTable) :
    (path : List String) → Option TomlTable
  | [] => f t
  | k :: path =>
    match t.lookup k with
    | none => do return t ++ [(k, .table .implied (← update f [] path))]
    | some (.table .braces _) => none
    | some (.table origin u) => do return t.replace k (.table origin (← update f u path))
    | some (.tables (u :: rest)) => do return t.replace k (.tables ((← update f u path) :: rest))
    | some _ => none

/-- Open a table by a header. A table is opened once. -/
def openTable (key : String) (t : TomlTable) : Option TomlTable :=
  match t.lookup key with
  | none => some (t ++ [(key, .table .header [])])
  | some (.table .implied u) => some (t.replace key (.table .header u))
  | some _ => none

/-- Add an element to an array of tables. -/
def openElement (key : String) (t : TomlTable) : Option TomlTable :=
  match t.lookup key with
  | none => some (t ++ [(key, .tables [[]])])
  | some (.tables elements) => some (t.replace key (.tables ([] :: elements)))
  | some _ => none

end TomlTable

end WorkbookQuery
