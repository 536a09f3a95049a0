/-
  Walks over expressions. A visitor says for each kind of node what to do with it; a kind that
  it says nothing about is rejected.
-/
import WorkbookQuery.Expr.Basic

namespace WorkbookQuery

/-- A step of a walk with state `σ` and result `α`. -/
abbrev Visit (σ α : Type) := StateT σ (Except Fault) α

/-- One action per kind of node. It is given the node, its parts and, for each part that is
an expression, the visit of that part; it decides which of those visits take place. -/
structure Visitor (σ α : Type) where
  source (node : Expr) (element : Element) : Visit σ α := node.reject
  call (node : Expr) (target : Option (Visit σ α)) (method : String)
    (args : List (Visit σ α)) : Visit σ α := node.reject
  lambda (node : Expr) (parameter : String) (body : Visit σ α) : Visit σ α := node.reject
  parameter (node : Expr) (name : String) : Visit σ α := node.reject
  member (node : Expr) (target : Visit σ α) (name : String) : Visit σ α := node.reject
  index (node : Expr) (target : Visit σ α) (key : String) : Visit σ α := node.reject
  constant (node : Expr) (l : Literal) : Visit σ α := node.reject
  binary (node : Expr) (op : BinaryOp) (left right : Visit σ α) : Visit σ α := node.reject
  unary (node : Expr) (op : UnaryOp) (operand : Visit σ α) : Visit σ α := node.reject
  record (node : Expr) (fields : List (String × Visit σ α)) : Visit σ α := node.reject

namespace Visitor

variable {σ α : Type}

mutual

def visit (v : Visitor σ α) : Expr → Visit σ α
  | .source element => v.source (.source element) element
  | .call target method args =>
    v.call (.call target method args) (some (v.visit target)) method (v.visits args)
  | .freeCall method args => v.call (.freeCall method args) none method (v.visits args)
  | .lambda parameter body => v.lambda (.lambda parameter body) parameter (v.visit body)
  | .parameter name => v.parameter (.parameter name) name
  | .member target name => v.member (.member target name) (v.visit target) name
  | .index target key => v.index (.index target key) (v.visit target) key
  | .constant l => v.constant (.constant l) l
  | .binary op left right => v.binary (.binary op left right) op (v.visit left) (v.visit right)
  | .unary op operand => v.unary (.unary op operand) op (v.visit operand)
  | .record fields => v.record (.record fields) (v.fieldVisits fields)

def visits (v : Visitor σ α) : List Expr → List (Visit σ α)
  | [] => []
  | e :: es => v.visit e :: v.visits es

def fieldVisits (v : Visitor σ α) : List (String × Expr) → List (String × Visit σ α)
  | [] => []
  | (name, e) :: rest => (name, v.visit e) :: v.fieldVisits rest

end

/-- Accepts nothing. -/
def rejecting : Visitor σ α := {}

/-- Accepts constants and operators between them; the result is the number of constants. -/
def constantCount : Visitor Nat Nat where
  constant _ _ := modifyGet fun n => (n + 1, n + 1)
  binary _ _ left right := do
    let _ ← left
    right

end Visitor

end WorkbookQuery
