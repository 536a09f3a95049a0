/-
  Reading JSON values from tokens, with a stack of the arrays and objects that are open.
-/
import WorkbookQuery.Json.Basic
import WorkbookQuery.Json.Token

namespace WorkbookQuery.JsonValue

/-- An open array or object with what it holds so far, the last first. An object that waits for
a value has its key at hand. -/
inductive Frame where
  | array (items : List JsonValue)
  | object (members : List (Option String × JsonValue))
  | member (members : List (Option String × JsonValue)) (key : Option String)

/-- What may come next. -/
inductive Expected where
  | value
  /-- A value, or the end of the array that was just opened. -/
  | firstItem
  /-- A key, or the end of the object that was just opened. -/
  | firstKey
  | key
  | colon
  /-- A comma, or the end of what is open. -/
  | separator
  /-- Nothing: the value is complete. -/
  | done (v : JsonValue)

structure State where
  stack : List Frame
  expected : Expected

namespace State

/-- Put a complete value where it belongs. -/
def put (v : JsonValue) : List Frame → Option State
  | [] => some ⟨[], .done v⟩
  | .array items :: st => some ⟨.array (v :: items) :: st, .separator⟩
  | .member members key :: st => some ⟨.object ((key, v) :: members) :: st, .separator⟩
  | .object _ :: _ => none

/-- A token at the beginning of a value. -/
def startValue (st : List Frame) : JsonToken → Option State
  | .null => put .null st
  | .boolean b => put (.boolean b) st
  | .number n => put (.number n) st
  | .string s => put (.string s) st
  | .openArray => some ⟨.array [] :: st, .firstItem⟩
  | .openObject => some ⟨.object [] :: st, .firstKey⟩
  | _ => none

/-- Close the innermost array or object. -/
def close (st : List Frame) (t : JsonToken) : Option State :=
  match st, t with
  | .array items :: st, .closeArray => put (.array items.reverse) st
  | .object members :: st, .closeObject => put (.object members.reverse) st
  | _, _ => none

/-- A key of the innermost object. -/
def startMember (st : List Frame) (t : JsonToken) : Option State :=
  match st, t with
  | .object members :: st, .string key => some ⟨.member members key :: st, .colon⟩
  | _, _ => none

def next (s : State) (t : JsonToken) : Option State :=
  match s.expected with
  | .value => startValue s.stack t
  | .firstItem => if t = .closeArray then close s.stack t else startValue s.stack t
  | .firstKey => if t = .closeObject then close s.stack t else startMember s.stack t
  | .key => startMember s.stack t
  | .colon => if t = .colon then some ⟨s.stack, .value⟩ else none
  | .separator =>
    if t = .comma then
      match s.stack with
      | .array _ :: _ => some ⟨s.stack, .value⟩
      | _ => some ⟨s.stack, .key⟩
    else close s.stack t
  | .done _ => none

end State

/-- The value of a text that holds exactly one. -/
def parse? (s : String) : Option JsonValue := do
  let tokens ← JsonToken.scan? s.toList
  match ← tokens.foldlM State.next ⟨[], .value⟩ with
  | ⟨_, .done v⟩ => some v
  | _ => none

end WorkbookQuery.JsonValue
