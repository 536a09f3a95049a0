/-
  The spelling of TOML numbers, dates and times.
-/
import WorkbookQuery.Calendar.Date
import WorkbookQuery.Decimal.Numeral
import WorkbookQuery.Json.Token

namespace WorkbookQuery.Toml

/-- Characters in groups with single underscores between them: what the groups hold. -/
def groups? (isDigit : Char → Bool) : List Char → Option (List Char)
  | [c] => if isDigit c then some [c] else none
  | c :: '_' :: s => if isDigit c then (groups? isDigit s).map (c :: ·) else none
  | c :: s => if isDigit c then (groups? isDigit s).map (c :: ·) else none
  | [] => none

def isHexDigit (c : Char) : Bool := (JsonToken.hexValue? c).isSome

/-- The value of digits in a base. -/
def valueInBase (base : Nat) (ds : List Char) : Nat :=
  ds.foldl (fun n d => base * n + (JsonToken.hexValue? d).getD 0) 0

/-- Digits without a leading zero, but for zero itself. -/
def decimal? (s : List Char) : Option (List Char) := do
  let ds ← groups? Char.isDigit s
  if ds.head? = some '0' ∧ 1 < s.length then none else some ds

def isDecimalInteger (s : List Char) : Bool :=
  let (negative, s) := Decimal.splitSign s
  match decimal? s with
  | some ds => Decimal.digitsValue ds < 2 ^ 63 + if negative then 1 else 0
  | none => false

/-- An integer of 64 bits, in decimal or in base sixteen, eight or two. -/
def isInteger (s : List Char) : Bool :=
  let inBase (base : Nat) (isDigit : Char → Bool) (s : List Char) : Bool :=
    match groups? isDigit s with
    | some ds => valueInBase base ds < 2 ^ 63
    | none => false
  match s with
  | '0' :: 'x' :: s => inBase 16 isHexDigit s
  | '0' :: 'o' :: s => inBase 8 (fun c => '0' ≤ c && c ≤ '7') s
  | '0' :: 'b' :: s => inBase 2 (fun c => c == '0' || c == '1') s
  | s => isDecimalInteger s

/-- An exponent with digits that may start with zeros. -/
def isExponent (s : List Char) : Bool := (groups? Char.isDigit (Decimal.splitSign s).2).isSome

/-- A decimal with a point, an exponent or both; only minus infinity may come of it where it is
too large. -/
def isFloat (s : List Char) : Bool :=
  let (negative, rest) := Decimal.splitSign s
  if rest == ['i', 'n', 'f'] || rest == ['n', 'a', 'n'] then true
  else
    let isE (c : Char) : Bool := c == 'e' || c == 'E'
    let whole := rest.takeWhile fun c => c != '.' && !isE c
    let rest := rest.drop whole.length
    let fractionOk := match rest with
      | '.' :: t => (groups? Char.isDigit (t.takeWhile (!isE ·))).isSome
      | _ => true
    let exponent := rest.dropWhile (!isE ·)
    let exponentOk := match exponent with
      | [] => true
      | _ :: t => isExponent t
    (decimal? whole).isSome && rest != [] && fractionOk && exponentOk &&
      match Decimal.readBinary64? (s.filter (· != '_')) with
      | some x => negative || x.isFinite
      | none => false

/-- A number of exactly two digits. -/
def two? : List Char → Option (Nat × List Char)
  | a :: b :: s => if a.isDigit && b.isDigit then some (Decimal.digitsValue [a, b], s) else none
  | _ => none

def isDate (s : List Char) : Bool :=
  let year := s.take 4
  year.length == 4 && year.all Char.isDigit &&
    match s.drop 4 with
    | ['-', a, b, '-', c, d] =>
      match two? [a, b], two? [c, d] with
      | some (m, _), some (d, _) =>
        1 ≤ m && m ≤ 12 && 1 ≤ d && d ≤ daysInMonth (Decimal.digitsValue year) m
      | _, _ => false
    | _ => false

/-- Hours and minutes, and what follows them. -/
def hourMinute? (s : List Char) : Option (List Char) := do
  let (h, s) ← two? s
  match s with
  | ':' :: s =>
    let (m, s) ← two? s
    if h ≤ 23 ∧ m ≤ 59 then some s else none
  | _ => none

/-- A time with its seconds, and what follows it. -/
def time? (s : List Char) : Option (List Char) := do
  match ← hourMinute? s with
  | ':' :: s =>
    let (sec, s) ← two? s
    if 60 < sec then none
    match s with
    | '.' :: t => if (t.takeWhile Char.isDigit) = [] then none else some (t.dropWhile Char.isDigit)
    | s => some s
  | _ => none

def isTime (s : List Char) : Bool := time? s == some []

/-- A distance from universal time, or none. -/
def isOffset : List Char → Bool
  | [] | ['Z'] | ['z'] => true
  | '+' :: s | '-' :: s => hourMinute? s == some []
  | _ => false

/-- A time that belongs to a date. -/
def isTimeOfDate (s : List Char) : Bool :=
  match time? s with
  | some rest => isOffset rest
  | none => false

/-- A date, alone or with a time after a `T`. -/
def isDateTime (s : List Char) : Bool :=
  isDate (s.take 10) &&
    match s.drop 10 with
    | [] => true
    | t :: s => (t == 'T' || t == 't') && isTimeOfDate s

/-- A number, a date or a time. -/
def isScalar (s : List Char) : Bool := isInteger s || isFloat s || isDateTime s || isTime s

end WorkbookQuery.Toml
