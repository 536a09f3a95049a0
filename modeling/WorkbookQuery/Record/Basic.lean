/-
  Records. A record holds one content per field and is read and written field by field. A shape
  lists the fields of a record type, which has a default of its own.
-/
import WorkbookQuery.Record.Field

namespace WorkbookQuery

structure Field where
  name : String
  type : FieldType
  deriving DecidableEq, Inhabited

/-- The contents of the fields, in order. -/
abbrev Record : List Field → Type
  | [] => Unit
  | f :: fs => f.type.Carrier × Record fs

namespace Record

/-- Every field as its type is initially. -/
def initial : (fs : List Field) → Record fs
  | [] => ()
  | f :: fs => (f.type.initial, initial fs)

/-- The value of one field. -/
def get : {fs : List Field} → Record fs → Fin fs.length → Value
  | f :: _, (x, _), ⟨0, _⟩ => f.type.toValue x
  | _ :: fs, (_, r), ⟨i + 1, h⟩ => @get fs r ⟨i, Nat.lt_of_succ_lt_succ h⟩

/-- The record with another value in one field, when the field takes it. -/
def set? : {fs : List Field} → Record fs → Fin fs.length → Value → Option (Record fs)
  | f :: _, (_, r), ⟨0, _⟩, v => (f.type.ofValue? v).map fun x => (x, r)
  | _ :: fs, (x, r), ⟨i + 1, h⟩, v =>
    (@set? fs r ⟨i, Nat.lt_of_succ_lt_succ h⟩ v).map fun r => (x, r)

/-- The values of all fields, in order. -/
def values {fs : List Field} (r : Record fs) : List Value := (List.finRange fs.length).map r.get

/-- The default of a record type with these fields. -/
class Default (fs : List Field) where
  record : Record fs

/-- A record type that does not say otherwise has the default of every field's type. -/
instance (fs : List Field) : Default fs := ⟨initial fs⟩

end Record

/-- The fields of a record type in the order of their declaration, and its default. -/
structure RecordShape where
  name : String
  fields : List Field
  [hasDefault : Record.Default fields]

/-- A record as it is before a field of it is assigned. -/
protected def RecordShape.default (shape : RecordShape) : Record shape.fields :=
  shape.hasDefault.record

namespace Field

def typeWord : ScalarType → String
  | .text => "Text"
  | .integer => "Integer"
  | .float => "Float"
  | .boolean => "Boolean"
  | .dateTime => "DateTime"
  | .date => "Date"

/-- The field in words: its name, its type and whether it takes null. -/
def describe (f : Field) : String :=
  "FieldDescriptor \x7b name: " ++ Text.quoted f.name ++ ", data_type: " ++
    typeWord f.type.scalar ++ ", nullable: " ++ (if f.type.nullable then "true" else "false") ++
    " \x7d"

end Field

end WorkbookQuery
