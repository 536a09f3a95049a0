/-
  The JSON forms of selections and of what they consist of, and of translations.
-/
import WorkbookQuery.Json.ValueForm
import WorkbookQuery.Translation

namespace WorkbookQuery

open JsonValue

def writeOption {α : Type} (write : α → JsonValue) : Option α → JsonValue
  | some a => write a
  | none => .null

/-! ## Filters -/

instance : JsonForm BoundLiteral where
  write l := record [("value", JsonForm.write l.value), ("data_type", JsonForm.write l.type),
    ("position", .ofNat l.position)]
  read? depth v := do
    match ← fields? false ["value", "data_type", "position"] depth v with
    | (d, [value, type, position]) =>
      return ⟨← required (JsonForm.read? d) value, ← required (JsonForm.read? d) type,
        ← required nat64? position⟩
    | _ => none

def Comparison.key : Comparison → String
  | .eq => "Eq"
  | .ne => "Ne"
  | .lt => "Lt"
  | .le => "Le"
  | .gt => "Gt"
  | .ge => "Ge"

def Comparison.ofKey? (key : String) : Option Comparison :=
  [.eq, .ne, .lt, .le, .gt, .ge].find? (·.key == key)

instance : JsonForm Comparison where
  write op := .ofText op.key
  read? depth v := (caseName? depth v).bind Comparison.ofKey?

instance : JsonForm Operand where
  write
    | .literal l => tagged "Literal" (JsonForm.write l)
    | .column name => tagged "Column" (.ofText name)
  read? depth v := do
    match ← case? depth v with
    | (d, "Literal", some v) => (JsonForm.read? d v).map .literal
    | (_, "Column", some v) => v.text?.map .column
    | _ => none

namespace Filter

/-- A text test: its column, and its constant under a name of its own. -/
def writeTest (name key column : String) (l : BoundLiteral) : JsonValue :=
  tagged name (record [("column", .ofText column), (key, JsonForm.write l)])

def readTest? (test : String → BoundLiteral → Filter) (key : String) (depth : Nat)
    (v : JsonValue) : Option Filter := do
  match ← fields? false ["column", key] depth v with
  | (d, [column, l]) => return test (← required text? column) (← required (JsonForm.read? d) l)
  | _ => none

def readComparison? (depth : Nat) (v : JsonValue) : Option Filter := do
  match ← fields? false ["column", "op", "operand"] depth v with
  | (d, [column, op, operand]) =>
    return .comparison (← required text? column) (← required (JsonForm.read? d) op)
      (← required (JsonForm.read? d) operand)
  | _ => none

def write : Filter → JsonValue
  | .comparison column op operand => tagged "Comparison" (record
      [("column", .ofText column), ("op", JsonForm.write op), ("operand", JsonForm.write operand)])
  | .and left right => tagged "And" (.array [left.write, right.write])
  | .or left right => tagged "Or" (.array [left.write, right.write])
  | .not inner => tagged "Not" inner.write
  | .contains column l => writeTest "Contains" "substring" column l
  | .startsWith column l => writeTest "StartsWith" "prefix" column l
  | .endsWith column l => writeTest "EndsWith" "suffix" column l
  | .isNull column => tagged "IsNull" (.ofText column)
  | .isNotNull column => tagged "IsNotNull" (.ofText column)

/-- A condition inside of at most the given number of further objects and arrays. Two
conditions joined are two levels down, a negated one is one level down. -/
def read? : (depth : Nat) → JsonValue → Option Filter
  | 0, _ => none
  | d + 1, .object [(some "Not", v)] => (read? d v).map .not
  | d + 2, .object [(some "And", .array [l, r])] => do return .and (← read? d l) (← read? d r)
  | d + 2, .object [(some "Or", .array [l, r])] => do return .or (← read? d l) (← read? d r)
  | d + 1, .object [(some name, v)] =>
    match name with
    | "Comparison" => readComparison? d v
    | "Contains" => readTest? .contains "substring" d v
    | "StartsWith" => readTest? .startsWith "prefix" d v
    | "EndsWith" => readTest? .endsWith "suffix" d v
    | "IsNull" => v.text?.map .isNull
    | "IsNotNull" => v.text?.map .isNotNull
    | _ => none
  | _ + 1, _ => none

end Filter

instance : JsonForm Filter where
  write := Filter.write
  read? := Filter.read?

/-! ## Selections -/

def Direction.key : Direction → String
  | .ascending => "Ascending"
  | .descending => "Descending"

instance : JsonForm Direction where
  write d := .ofText d.key
  read? depth v := (caseName? depth v).bind fun key =>
    [Direction.ascending, .descending].find? (·.key == key)

instance : JsonForm OrderKey where
  write k := record [("column", .ofText k.column), ("direction", JsonForm.write k.direction)]
  read? depth v := do
    match ← fields? false ["column", "direction"] depth v with
    | (d, [column, direction]) =>
      return ⟨← required text? column, ← required (JsonForm.read? d) direction⟩
    | _ => none

instance : JsonForm ProjectedColumn where
  write c := record [("column", .ofText c.column), ("alias", writeOption .ofText c.alias?)]
  read? depth v := do
    match ← fields? false ["column", "alias"] depth v with
    | (_, [column, name]) => return ⟨← required text? column, ← optional? text? name⟩
    | _ => none

instance : JsonForm Projection where
  write
    | .all => .ofText "All"
    | .columns columns => tagged "Columns" (.array (columns.map JsonForm.write))
  read? depth v := do
    match ← case? depth v with
    | (_, "All", none) | (_, "All", some .null) => some .all
    | (d, "Columns", some v) =>
      let (d, items) ← items? d v
      return .columns (← items.mapM (JsonForm.read? d))
    | _ => none

def Cardinality.key : Cardinality → String
  | .all => "All"
  | .first => "First"
  | .firstOrDefault => "FirstOrDefault"

instance : JsonForm Cardinality where
  write c := .ofText c.key
  read? depth v := (caseName? depth v).bind fun key =>
    [Cardinality.all, .first, .firstOrDefault].find? (·.key == key)

def Element.write : Element → JsonValue
  | .typed name => tagged "Typed" (.ofText name)
  | .dynamic => .ofText "Dynamic"

def Selection.write (s : Selection) : JsonValue :=
  record [("worksheet", .ofText s.worksheet), ("projection", JsonForm.write s.projection),
    ("filter", writeOption JsonForm.write s.filter),
    ("ordering", .array (s.ordering.map JsonForm.write)),
    ("limit", writeOption .ofNat s.limit), ("element", s.element.write),
    ("cardinality", JsonForm.write s.cardinality)]

def Statement.write (s : Statement) : JsonValue :=
  record [("text", .ofText s.text), ("parameters", .array (s.parameters.map JsonForm.write))]

/-- The translation as JSON text. -/
def Translation.jsonText (t : Translation) : String :=
  (record [("model", t.selection.write), ("plan", t.statement.write)]).compact

end WorkbookQuery
