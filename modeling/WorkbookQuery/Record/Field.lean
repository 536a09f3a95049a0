/-
  Types of record fields. Each has a scalar type whose values it is read from, and takes only
  some of those; a nullable field takes null besides.
-/
import WorkbookQuery.Value.Coercion

namespace WorkbookQuery

inductive BaseType where
  | text
  | integer
  /-- Integers of 32 bits. -/
  | int32
  /-- Integers of 32 bits without a sign. -/
  | nat32
  | float
  | boolean
  | dateTime
  | date
  deriving DecidableEq, Inhabited

namespace BaseType

def scalar : BaseType → ScalarType
  | .text => .text
  | .integer | .int32 | .nat32 => .integer
  | .float => .float
  | .boolean => .boolean
  | .dateTime => .dateTime
  | .date => .date

abbrev Carrier : BaseType → Type
  | .text => String
  | .integer => Int64
  | .int32 => Int32
  | .nat32 => UInt32
  | .float => Binary64
  | .boolean => Bool
  | .dateTime => DateTime
  | .date => Date

/-- The field's content for a value, when the value fits. -/
def ofValue? : (b : BaseType) → Value → Option b.Carrier
  | .text, .text s => some s
  | .integer, .integer n => some n
  | .int32, .integer n =>
    if -2 ^ 31 ≤ n.toInt ∧ n.toInt < 2 ^ 31 then some (Int32.ofInt n.toInt) else none
  | .nat32, .integer n =>
    if 0 ≤ n.toInt ∧ n.toInt < 2 ^ 32 then some (UInt32.ofNat n.toInt.toNat) else none
  | .float, .float x => some x
  | .boolean, .boolean b => some b
  | .dateTime, .dateTime t => some t
  | .date, .date d => some d
  | _, _ => none

def toValue : (b : BaseType) → b.Carrier → Value
  | .text, s => .text s
  | .integer, n => .integer n
  | .int32, n => .integer (Int64.ofInt n.toInt)
  | .nat32, n => .integer (Int64.ofInt n.toNat)
  | .float, x => .float x
  | .boolean, b => .boolean b
  | .dateTime, t => .dateTime t
  | .date, d => .date d

/-- What a field of the type holds when its record type does not say another default. -/
def initial : (b : BaseType) → b.Carrier
  | .text => ""
  | .integer => 0
  | .int32 => 0
  | .nat32 => 0
  | .float => .zero false
  | .boolean => false
  | .dateTime => Date.epoch.atMidnight
  | .date => Date.epoch

end BaseType

structure FieldType where
  base : BaseType
  nullable : Bool := false
  deriving DecidableEq, Inhabited

namespace FieldType

def scalar (t : FieldType) : ScalarType := t.base.scalar

abbrev Carrier : FieldType → Type
  | ⟨b, false⟩ => b.Carrier
  | ⟨b, true⟩ => Option b.Carrier

def ofValue? : (t : FieldType) → Value → Option t.Carrier
  | ⟨b, false⟩, v => b.ofValue? v
  | ⟨_, true⟩, .null => some none
  | ⟨b, true⟩, v => (b.ofValue? v).map some

def toValue : (t : FieldType) → t.Carrier → Value
  | ⟨b, false⟩, x => b.toValue x
  | ⟨_, true⟩, none => .null
  | ⟨b, true⟩, some x => b.toValue x

def initial : (t : FieldType) → t.Carrier
  | ⟨b, false⟩ => b.initial
  | ⟨_, true⟩ => none

end FieldType

end WorkbookQuery
