/-
  Queries over one worksheet. Each step appends a call to the query's expression; nothing is
  checked before the query is translated. The type of a query says what its rows become.
-/
import WorkbookQuery.Materialization
import WorkbookQuery.Translation

namespace WorkbookQuery

structure Query (t : Target) where
  expr : Expr
  worksheet : String
  columns : ColumnMap := .empty

namespace Query

variable {t : Target}

/-- All rows of a worksheet. -/
def ofWorksheet (t : Target) (worksheet : String) : Query t :=
  ⟨.source t.element, worksheet, .empty⟩

def withColumns (q : Query t) (m : ColumnMap) : Query t := { q with columns := m }

/-- Read `property` from the column headed `column`. -/
def mapColumn (q : Query t) (property column : String) : Query t :=
  { q with columns := q.columns.add property column }

/-- The lambda whose parameter is named `x`. -/
def lambda (body : Expr → Expr) : Expr := .lambda "x" (body (.parameter "x"))

def call {u : Target} (q : Query t) (method : String) (args : List Expr) : Query u :=
  ⟨.call q.expr method args, q.worksheet, q.columns⟩

/-- Keep the rows that meet the condition. -/
def filter (q : Query t) (condition : Expr → Expr) : Query t := q.call "where" [lambda condition]

def orderBy (q : Query t) (key : Expr → Expr) : Query t := q.call "order_by" [lambda key]

def orderByDescending (q : Query t) (key : Expr → Expr) : Query t :=
  q.call "order_by_descending" [lambda key]

def thenBy (q : Query t) (key : Expr → Expr) : Query t := q.call "then_by" [lambda key]

def thenByDescending (q : Query t) (key : Expr → Expr) : Query t :=
  q.call "then_by_descending" [lambda key]

def take (q : Query t) (count : UInt32) : Query t :=
  q.call "take" [.ofValue (.integer (Int64.ofInt count.toNat))]

def first (q : Query t) : Query t := q.call "first" []

def firstOrDefault (q : Query t) : Query t := q.call "first_or_default" []

/-- Read some columns only. What they become has no type. -/
def select (q : Query t) (projection : Expr → Expr) : Query .rows :=
  q.call "select" [lambda projection]

/-- Read every column, as rows without a type. -/
def intoRows (q : Query t) : Query .rows := q.call "as_rows" []

def translate (q : Query t) (d : Dialect) (settings : Settings) : Except Fault Translation :=
  WorkbookQuery.translate q.expr q.columns q.worksheet d settings

/-- The query in words: its worksheet, its expression and its columns. -/
def describe (q : Query t) : String :=
  let entries := q.columns.entries.map fun (p, c) => Text.quoted p ++ ": " ++ Text.quoted c
  "Query \x7b worksheet: " ++ Text.quoted q.worksheet ++ ", expr: " ++ Text.quoted q.expr.text ++
    ", mapping: ColumnMapping \x7b mappings: \x7b" ++ ", ".intercalate entries ++
    "\x7d \x7d \x7d"

end Query

end WorkbookQuery
