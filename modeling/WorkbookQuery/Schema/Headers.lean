/-
  The column headers of a result. Headers may repeat and may be empty; a name stands for the
  first column that bears it.
-/

namespace WorkbookQuery

/-- Positions by header name, every name at most once. -/
abbrev HeaderIndex := List (String × Nat)

namespace HeaderIndex

def position? (index : HeaderIndex) (name : String) : Option Nat := index.lookup name

/-- Enter a name; a name that is there already keeps its position. -/
def enter (index : HeaderIndex) (name : String) (position : Nat) : HeaderIndex :=
  match index.position? name with
  | some _ => index
  | none => (name, position) :: index

/-- Enter the names at consecutive positions. -/
def enterAll (index : HeaderIndex) : Nat → List String → HeaderIndex
  | _, [] => index
  | n, name :: rest => (index.enter name n).enterAll (n + 1) rest

/-- The names in the order of their positions. -/
def names (index : HeaderIndex) : List String :=
  (index.mergeSort fun a b => a.2 ≤ b.2).map Prod.fst

end HeaderIndex

/-- Header names in the order of their columns. -/
structure Headers where
  columns : List String
  deriving DecidableEq, Inhabited

namespace Headers

def width (h : Headers) : Nat := h.columns.length

def index (h : Headers) : HeaderIndex := HeaderIndex.enterAll [] 0 h.columns

/-- The first column with this header. -/
def position? (h : Headers) (name : String) : Option Nat := h.index.position? name

def contains (h : Headers) (name : String) : Bool := (h.position? name).isSome

end Headers

end WorkbookQuery
