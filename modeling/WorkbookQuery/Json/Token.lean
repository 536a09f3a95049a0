/-
  Tokens of JSON text.
-/
import WorkbookQuery.Json.Numeral

namespace WorkbookQuery

inductive JsonToken where
  | openArray
  | closeArray
  | openObject
  | closeObject
  | comma
  | colon
  | null
  | boolean (b : Bool)
  | number (numeral : String)
  | string (s : Option String)
  deriving DecidableEq

namespace JsonToken

/-- What a string consists of: characters, and halves of pairs named by escapes. -/
inductive Unit16 where
  | char (c : Char)
  | high (n : Nat)
  | low (n : Nat)
  deriving DecidableEq

/-- The unit that an escape with this code names. -/
def Unit16.ofCode (n : Nat) : Unit16 :=
  if 0xD800 ≤ n ∧ n < 0xDC00 then .high n
  else if 0xDC00 ≤ n ∧ n < 0xE000 then .low n
  else .char (Char.ofNat n)

/-- The characters of a string, when no half of a pair is alone. -/
def join? : List Unit16 → Option (List Char)
  | [] => some []
  | .char c :: rest => (join? rest).map (c :: ·)
  | .high h :: .low l :: rest =>
    (join? rest).map (Char.ofNat (0x10000 + (h - 0xD800) * 0x400 + (l - 0xDC00)) :: ·)
  | _ => none

/-- A token without quotation marks. -/
def ofWord? (w : List Char) : Option JsonToken :=
  match String.ofList w with
  | "null" => some .null
  | "true" => some (.boolean true)
  | "false" => some (.boolean false)
  | s => (JsonNumeral.ofChars? w).map fun _ => .number s

def ofMark? (c : Char) : Option JsonToken :=
  match c with
  | '[' => some .openArray
  | ']' => some .closeArray
  | '{' => some .openObject
  | '}' => some .closeObject
  | ',' => some .comma
  | ':' => some .colon
  | _ => none

def isBlank (c : Char) : Bool := c == ' ' || c == '\n' || c == '\t' || c == '\r'

def hexValue? (c : Char) : Option Nat :=
  if c.isDigit then some (c.toNat - '0'.toNat)
  else if 'a' ≤ c ∧ c ≤ 'f' then some (c.toNat - 'a'.toNat + 10)
  else if 'A' ≤ c ∧ c ≤ 'F' then some (c.toNat - 'A'.toNat + 10)
  else none

/-- The character that a short escape stands for. -/
def escaped? (c : Char) : Option Char :=
  match c with
  | '"' => some '"'
  | '\\' => some '\\'
  | '/' => some '/'
  | 'b' => some '\x08'
  | 'f' => some '\x0c'
  | 'n' => some '\n'
  | 'r' => some '\r'
  | 't' => some '\t'
  | _ => none

/-- What has been read of the current token, the last unit first. -/
inductive Mode where
  | between
  | word (w : List Char)
  | string (units : List Unit16)
  | escape (units : List Unit16)
  /-- Inside of `\u`: the value of the digits so far, and how many are still to come. -/
  | code (units : List Unit16) (value left : Nat)

namespace Mode

/-- A character at which no token is open. -/
def start? (c : Char) : Option (List JsonToken × Mode) :=
  if isBlank c then some ([], between)
  else if c = '"' then some ([], string [])
  else match ofMark? c with
    | some t => some ([t], between)
    | none => some ([], word [c])

/-- The tokens that a character finishes, and the mode after it. -/
def next? : Mode → Char → Option (List JsonToken × Mode)
  | between, c => start? c
  | word w, c =>
    if isBlank c || c == '"' || (ofMark? c).isSome then do
      let t ← ofWord? w.reverse
      let (ts, m) ← start? c
      return (t :: ts, m)
    else some ([], word (c :: w))
  | string us, c =>
    if c = '"' then some ([.string ((join? us.reverse).map String.ofList)], between)
    else if c = '\\' then some ([], escape us)
    else if c.toNat < 0x20 then none
    else some ([], string (.char c :: us))
  | escape us, c =>
    if c = 'u' then some ([], code us 0 4)
    else (escaped? c).map fun d => ([], string (.char d :: us))
  | code us value left, c => do
    let value := 16 * value + (← hexValue? c)
    return ([], if left ≤ 1 then string (.ofCode value :: us) else code us value (left - 1))

def scan? : Mode → List Char → Option (List JsonToken)
  | between, [] => some []
  | word w, [] => (ofWord? w.reverse).map ([·])
  | _, [] => none
  | m, c :: s => do
    let (ts, m) ← m.next? c
    return ts ++ (← m.scan? s)

end Mode

/-- The tokens of a text. -/
def scan? (s : List Char) : Option (List JsonToken) := Mode.between.scan? s

end JsonToken

end WorkbookQuery
