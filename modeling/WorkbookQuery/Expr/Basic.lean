/-
  Query expressions. A query is a chain of calls on a worksheet, most of them with a lambda:
  `worksheet<Person>.where(|x| (x.age > 30)).take(10)`.
-/
import WorkbookQuery.Value.Coercion

namespace WorkbookQuery

/-- What the rows of a query become: records of a named type, or rows without a type. -/
inductive Element where
  | typed (name : String)
  | dynamic
  deriving DecidableEq, Inhabited

def Element.isDynamic : Element → Bool
  | .dynamic => true
  | .typed _ => false

/-- The element in words. -/
def Element.describe : Element → String
  | .typed name => "Typed(" ++ Text.quoted name ++ ")"
  | .dynamic => "Dynamic"

/-- A constant with the type it was declared with. -/
structure Literal where
  value : Value
  type : ScalarType
  deriving DecidableEq, Inhabited

namespace Literal

/-- A value of its own type; null counts as text. -/
def ofValue (v : Value) : Literal := ⟨v, v.type?.getD .text⟩

/-- The counterpart of a value in the given type. -/
def typed (v : Value) (type : ScalarType) : Except Fault Literal :=
  return ⟨← v.coerce type, type⟩

def null (type : ScalarType) : Literal := ⟨.null, type⟩

def isNull (l : Literal) : Bool := l.value.isNull

end Literal

inductive BinaryOp where
  | eq | ne | lt | le | gt | ge
  | and | or
  | add | sub | mul | div
  deriving DecidableEq

def BinaryOp.symbol : BinaryOp → String
  | .eq => "=="
  | .ne => "!="
  | .lt => "<"
  | .le => "<="
  | .gt => ">"
  | .ge => ">="
  | .and => "&&"
  | .or => "||"
  | .add => "+"
  | .sub => "-"
  | .mul => "*"
  | .div => "/"

inductive UnaryOp where
  | not
  | negate
  | convert (type : ScalarType)
  deriving DecidableEq

inductive Expr where
  /-- The worksheet that is queried. -/
  | source (element : Element)
  | call (target : Expr) (method : String) (args : List Expr)
  /-- A call on nothing. -/
  | freeCall (method : String) (args : List Expr)
  | lambda (parameter : String) (body : Expr)
  | parameter (name : String)
  | member (target : Expr) (name : String)
  | index (target : Expr) (key : String)
  | constant (l : Literal)
  | binary (op : BinaryOp) (left right : Expr)
  | unary (op : UnaryOp) (operand : Expr)
  /-- A record made of named parts. -/
  | record (fields : List (String × Expr))
  deriving Inhabited

namespace Expr

def null : Expr := .constant (.null .text)

def ofValue (v : Value) : Expr := .constant (.ofValue v)

/-- The parameter and the body of a lambda. -/
def lambda? : Expr → Option (String × Expr)
  | .lambda param body => some (param, body)
  | _ => none

/-! ## Text -/

mutual

/-- The expression as it would be written. -/
def text : Expr → String
  | .source (.typed name) => "worksheet<" ++ name ++ ">"
  | .source .dynamic => "worksheet<Row>"
  | .call target method args =>
    target.text ++ "." ++ method ++ "(" ++ ", ".intercalate (texts args) ++ ")"
  | .freeCall method args => method ++ "(" ++ ", ".intercalate (texts args) ++ ")"
  | .lambda param body => "|" ++ param ++ "| " ++ body.text
  | .parameter name => name
  | .member target name => target.text ++ "." ++ name
  | .index target key => target.text ++ "[" ++ Text.quoted key ++ "]"
  | .constant l => l.value.display
  | .binary op left right =>
    "(" ++ left.text ++ " " ++ op.symbol ++ " " ++ right.text ++ ")"
  | .unary .not operand => "!" ++ operand.text
  | .unary .negate operand => "-" ++ operand.text
  | .unary (.convert type) operand => "(" ++ operand.text ++ " as " ++ type.name ++ ")"
  | .record fields => "\x7b " ++ ", ".intercalate (fieldTexts fields) ++ " \x7d"

def texts : List Expr → List String
  | [] => []
  | e :: es => e.text :: texts es

def fieldTexts : List (String × Expr) → List String
  | [] => []
  | (name, e) :: rest => (name ++ ": " ++ e.text) :: fieldTexts rest

end

/-- The fault of an expression that no statement can express. -/
def reject (e : Expr) : Except Fault α := .error (.unsupported e.text)

end Expr

end WorkbookQuery
