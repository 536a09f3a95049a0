/-
  The bodies of lambdas. Over the lambda's own parameter a body is a column, a constant or a
  condition; everything else is rejected. Constants are numbered when they enter a condition:
  a function that may number some takes the next number and returns the one after.
-/
import WorkbookQuery.Schema.ColumnMap
import WorkbookQuery.Selection.Filter

namespace WorkbookQuery

/-- What a part of a lambda's body stands for. -/
inductive Term where
  | column (name : String)
  | literal (l : Literal)
  | filter (f : Filter)
  deriving DecidableEq

namespace Term

/-- The term as a condition. A column alone means that it is true; `node` is the expression
to blame for a constant. -/
def asFilter (node : Expr) (n : Nat) : Term → Except Fault (Filter × Nat)
  | .filter f => .ok (f, n)
  | .column c =>
    .ok (.comparison c .eq (.literal ((Literal.ofValue (.boolean true)).bind n)), n + 1)
  | .literal _ => node.reject

/-- The term as a column. -/
def asColumn (node : Expr) : Term → Except Fault String
  | .column c => .ok c
  | _ => node.reject

/-- A column compared with a column or a constant. With null only equality makes sense: it
asks whether the column is null. -/
def compareColumn (node : Expr) (column : String) (op : Comparison) (n : Nat) :
    Term → Except Fault (Term × Nat)
  | .column other => .ok (.filter (.comparison column op (.column other)), n)
  | .literal l =>
    if l.isNull then
      match op with
      | .eq => .ok (.filter (.isNull column), n)
      | .ne => .ok (.filter (.isNotNull column), n)
      | _ => node.reject
    else .ok (.filter (.comparison column op (.literal (l.bind n))), n + 1)
  | .filter _ => node.reject

/-- A comparison of two terms, turned round when the column stands on the right alone. -/
def compare (node : Expr) (op : Comparison) (n : Nat) (left right : Term) :
    Except Fault (Term × Nat) :=
  match left, right with
  | .column c, other => compareColumn node c op n other
  | .literal l, .column c => compareColumn node c op.mirrored n (.literal l)
  | _, _ => node.reject

/-- Minus a constant: any floating-point number, and any integer whose opposite there is. -/
def negate (node : Expr) : Term → Except Fault Term
  | .literal ⟨.integer i, type⟩ =>
    if i = Int64.minValue then node.reject else .ok (.literal ⟨.integer (-i), type⟩)
  | .literal ⟨.float x, type⟩ => .ok (.literal ⟨.float x.negate, type⟩)
  | _ => node.reject

/-- A conversion leaves a column as it is and gives a constant the new type. -/
def convert (node : Expr) (type : ScalarType) : Term → Except Fault Term
  | .column c => .ok (.column c)
  | .literal l =>
    match Literal.typed l.value type with
    | .ok l => .ok (.literal l)
    | .error _ => node.reject
  | .filter _ => node.reject

/-- The tests of a column's text, by method name. -/
def textTest? (method : String) : Option (String → BoundLiteral → Filter) :=
  if method = "contains" then some .contains
  else if method = "starts_with" then some .startsWith
  else if method = "ends_with" then some .endsWith
  else none

/-- A text test takes a constant that is not null, as text. -/
def testText (node : Expr) (test : String → BoundLiteral → Filter) (column : String) (n : Nat) :
    Term → Except Fault (Term × Nat)
  | .literal l =>
    if l.isNull then node.reject
    else do
      let l ← Literal.typed l.value .text
      return (.filter (test column (l.bind n)), n + 1)
  | _ => node.reject

def comparison? : BinaryOp → Option Comparison
  | .eq => some .eq
  | .ne => some .ne
  | .lt => some .lt
  | .le => some .le
  | .gt => some .gt
  | .ge => some .ge
  | _ => none

/-- `&&` and `||` as conditions on rows. -/
def connective? : BinaryOp → Option (Filter → Filter → Filter)
  | .and => some .and
  | .or => some .or
  | _ => none

/-- The expression is the lambda's own parameter. -/
def isOwn (parameter : String) : Expr → Bool
  | .parameter name => name == parameter
  | _ => false

/-- What an expression stands for over a parameter, numbering its constants from `n`. -/
def ofExpr (m : ColumnMap) (parameter : String) : Expr → Nat → Except Fault (Term × Nat)
  | .member target name, n =>
    if isOwn parameter target then .ok (.column (m.resolve name), n)
    else (Expr.member target name).reject
  | .index target key, n =>
    if isOwn parameter target then .ok (.column (m.resolve key), n)
    else (Expr.index target key).reject
  | .constant l, n => .ok (.literal l, n)
  | .call target method args, n =>
    if method = "cast" ∧ args.isEmpty then do
      let (t, n) ← ofExpr m parameter target n
      return (.column (← t.asColumn target), n)
    else match textTest? method with
      | some test => do
        let (t, n) ← ofExpr m parameter target n
        let column ← t.asColumn target
        match args with
        | [arg] =>
          let (t, n) ← ofExpr m parameter arg n
          t.testText (.call target method args) test column n
        | _ => (Expr.call target method args).reject
      | none => (Expr.call target method args).reject
  | .binary op left right, n =>
    match comparison? op, connective? op with
    | some comparison, _ => do
      let (l, n) ← ofExpr m parameter left n
      let (r, n) ← ofExpr m parameter right n
      compare (.binary op left right) comparison n l r
    | none, some connective => do
      let (l, n) ← ofExpr m parameter left n
      let (l, n) ← l.asFilter left n
      let (r, n) ← ofExpr m parameter right n
      let (r, n) ← r.asFilter right n
      return (.filter (connective l r), n)
    | none, none => (Expr.binary op left right).reject
  | .unary .not operand, n => do
    let (t, n) ← ofExpr m parameter operand n
    match t with
    | .literal _ => (Expr.unary .not operand).reject
    | t =>
      let (f, n) ← t.asFilter operand n
      return (.filter (.not f), n)
  | .unary .negate operand, n => do
    let (t, n) ← ofExpr m parameter operand n
    return (← t.negate (.unary .negate operand), n)
  | .unary (.convert type) operand, n => do
    let (t, n) ← ofExpr m parameter operand n
    return (← t.convert (.unary (.convert type) operand) type, n)
  | e, _ => e.reject

/-- The column that an expression stands for. -/
def columnOfExpr (m : ColumnMap) (parameter : String) (e : Expr) (n : Nat) :
    Except Fault (String × Nat) := do
  let (t, n) ← ofExpr m parameter e n
  return (← t.asColumn e, n)

/-- The condition that an expression stands for. -/
def filterOfExpr (m : ColumnMap) (parameter : String) (e : Expr) (n : Nat) :
    Except Fault (Filter × Nat) := do
  let (t, n) ← ofExpr m parameter e n
  t.asFilter e n

end Term

end WorkbookQuery
