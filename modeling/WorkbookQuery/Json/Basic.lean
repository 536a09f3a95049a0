/-
  JSON values and how they are written without blanks.
-/

namespace WorkbookQuery

/-- Numbers are kept as they are written. A string is absent when an escape in it names one
half of a pair of which the other half is missing: then it has no text. -/
inductive JsonValue where
  | null
  | boolean (b : Bool)
  | number (numeral : String)
  | string (s : Option String)
  | array (items : List JsonValue)
  | object (members : List (Option String × JsonValue))
  deriving Inhabited

namespace JsonValue

def ofText (s : String) : JsonValue := .string (some s)

def ofNat (n : Nat) : JsonValue := .number (toString n)

def ofInt (n : Int) : JsonValue := .number (toString n)

/-- An object with the given members. -/
def record (members : List (String × JsonValue)) : JsonValue :=
  .object (members.map fun (k, v) => (some k, v))

/-! ## Writing -/

def hexDigit (n : Nat) : Char := (Nat.toDigits 16 n).headD '0'

/-- One character of a string. -/
def escapeChar (c : Char) : List Char :=
  if c = '"' then ['\\', '"']
  else if c = '\\' then ['\\', '\\']
  else if c = '\x08' then ['\\', 'b']
  else if c = '\x0c' then ['\\', 'f']
  else if c = '\n' then ['\\', 'n']
  else if c = '\r' then ['\\', 'r']
  else if c = '\t' then ['\\', 't']
  else if c.toNat < 0x20 then
    ['\\', 'u', '0', '0', hexDigit (c.toNat / 16), hexDigit (c.toNat % 16)]
  else [c]

def quote (s : String) : String := String.ofList ('"' :: s.toList.flatMap escapeChar ++ ['"'])

mutual

/-- The value as text without blanks. -/
def compact : JsonValue → String
  | .null => "null"
  | .boolean true => "true"
  | .boolean false => "false"
  | .number numeral => numeral
  | .string s => quote (s.getD "")
  | .array items => "[" ++ ",".intercalate (compactItems items) ++ "]"
  | .object members => "\x7b" ++ ",".intercalate (compactMembers members) ++ "\x7d"

def compactItems : List JsonValue → List String
  | [] => []
  | v :: rest => v.compact :: compactItems rest

def compactMembers : List (Option String × JsonValue) → List String
  | [] => []
  | (k, v) :: rest => (quote (k.getD "") ++ ":" ++ v.compact) :: compactMembers rest

end

/-! ## Order of members -/

/-- A member put where its key belongs. -/
def insertMember (k : Option String) (v : JsonValue) :
    List (Option String × JsonValue) → List (Option String × JsonValue)
  | [] => [(k, v)]
  | (l, w) :: rest =>
    if l.getD "" < k.getD "" then (l, w) :: insertMember k v rest else (k, v) :: (l, w) :: rest

mutual

/-- The value with the members of every object in the order of their keys. -/
def sorted : JsonValue → JsonValue
  | .array items => .array (sortedItems items)
  | .object members => .object (sortedMembers members)
  | v => v

def sortedItems : List JsonValue → List JsonValue
  | [] => []
  | v :: rest => v.sorted :: sortedItems rest

def sortedMembers : List (Option String × JsonValue) → List (Option String × JsonValue)
  | [] => []
  | (k, v) :: rest => insertMember k v.sorted (sortedMembers rest)

end

end JsonValue

end WorkbookQuery
