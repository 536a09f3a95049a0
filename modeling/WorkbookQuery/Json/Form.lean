/-
  Forms: how values of a type stand in JSON. A record is an object, or an array of its fields in
  order. One of several cases is its name alone, or an object whose only key is the name.
  Objects and arrays may be nested up to a depth of 127.
-/
import WorkbookQuery.Json.Reading

namespace WorkbookQuery

/-- How values of a type are written and read. The depth is that of the objects and arrays
that may still be opened. -/
class JsonForm (α : Type) where
  write : α → JsonValue
  read? : (depth : Nat) → JsonValue → Option α

/-- The depth of what has no object or array around it. -/
def JsonForm.fullDepth : Nat := 127

/-- The value of a text in its form. -/
def JsonForm.ofText? (α : Type) [JsonForm α] (s : String) : Option α :=
  (JsonValue.parse? s).bind (JsonForm.read? JsonForm.fullDepth)

namespace JsonValue

/-! ## Simple values -/

def text? : JsonValue → Option String
  | .string s => s
  | _ => none

def boolean? : JsonValue → Option Bool
  | .boolean b => some b
  | _ => none

def numeral? : JsonValue → Option JsonNumeral
  | .number n => JsonNumeral.ofChars? n.toList
  | _ => none

def int? (v : JsonValue) : Option Int := v.numeral?.bind JsonNumeral.toInt?

/-- A whole number of 64 bits without a sign. -/
def nat64? (v : JsonValue) : Option Nat :=
  v.int?.bind fun n => if 0 ≤ n ∧ n < 2 ^ 64 then some n.toNat else none

/-- The contents of an optional field: null stands for none. -/
def option? {α : Type} (read : JsonValue → Option α) : JsonValue → Option (Option α)
  | .null => some none
  | v => (read v).map some

/-! ## Records -/

/-- The values of the named keys. No named key may be there twice; other keys do not matter. -/
def lookupAll? (members : List (String × JsonValue)) :
    List String → Option (List (Option JsonValue))
  | [] => some []
  | name :: names => do
    let found := (members.filter (·.1 == name)).map Prod.snd
    let rest ← lookupAll? members names
    match found with
    | [] => some (none :: rest)
    | [v] => some (some v :: rest)
    | _ => none

/-- The members of an object whose keys all have a text. -/
def members? : List (Option String × JsonValue) → Option (List (String × JsonValue))
  | [] => some []
  | (k, v) :: rest => do return (← k, v) :: (← members? rest)

/-- The fields of a record, each with its value or none, and the depth inside of it. An array
gives all of them unless `partly` is set. -/
def fields? (partly : Bool) (names : List String) (depth : Nat) (v : JsonValue) :
    Option (Nat × List (Option JsonValue)) :=
  match depth, v with
  | d + 1, .object members => do
    let members ← members? members
    return (d, ← lookupAll? members names)
  | d + 1, .array items =>
    if items.length = names.length ∨ (partly ∧ items.length < names.length) then
      some (d, items.map some ++ List.replicate (names.length - items.length) none)
    else none
  | _, _ => none

/-- Several values in an array. -/
def items? (depth : Nat) (v : JsonValue) : Option (Nat × List JsonValue) :=
  match depth, v with
  | d + 1, .array items => some (d, items)
  | _, _ => none

/-! ## Cases -/

/-- The name of a case, and what comes with it if it is not a name alone. -/
def case? (depth : Nat) (v : JsonValue) : Option (Nat × String × Option JsonValue) :=
  match depth, v with
  | d, .string s => s.map fun name => (d, name, none)
  | d + 1, .object [(k, v)] => k.map fun name => (d, name, some v)
  | _, _ => none

/-- The name of a case that has nothing with it. -/
def caseName? (depth : Nat) (v : JsonValue) : Option String := do
  match ← case? depth v with
  | (_, name, none) | (_, name, some .null) => some name
  | _ => none

/-- A case and what comes with it. -/
def tagged (name : String) (v : JsonValue) : JsonValue := record [(name, v)]

end JsonValue

end WorkbookQuery
