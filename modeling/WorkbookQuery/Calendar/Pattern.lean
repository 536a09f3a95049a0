/-
  Reading dates and times by patterns. A pattern is a row of pieces; each piece takes its part
  from the front of the text, and the text must be used up.
-/
import WorkbookQuery.Text.Blank
import WorkbookQuery.Calendar.Date
import WorkbookQuery.Decimal.Numeral

namespace WorkbookQuery

/-- What a pattern expects at one place. A `gap` is any number of blank characters. -/
inductive Piece where
  | year | month | day
  | hour | halfDayHour | minute | second
  | halfDay | fraction | gap
  | exactly (c : Char)
  deriving DecidableEq

abbrev Pattern := List Piece

/-- What the pieces read so far have told. -/
structure Parts where
  year : Option Int := none
  month : Option Nat := none
  day : Option Nat := none
  hour : Option Nat := none
  halfDayHour : Option Nat := none
  afternoon : Option Bool := none
  minute : Option Nat := none
  second : Option Nat := none
  nano : Option Nat := none

namespace Parts

def date? (p : Parts) : Option Date := do
  Date.of? (← p.year) (← p.month) (← p.day)

/-- The hour of the day, given as such or as one of the twelve hours of a half. -/
def hour? (p : Parts) : Option Nat :=
  match p.hour, p.halfDayHour, p.afternoon with
  | some h, _, _ => some h
  | none, some h, some a =>
    if 1 ≤ h ∧ h ≤ 12 then some (h % 12 + if a then 12 else 0) else none
  | _, _, _ => none

/-- A time needs its minute; seconds left out are zero. -/
def time? (p : Parts) : Option Time := do
  Time.ofWritten? (← p.hour?) (← p.minute) (p.second.getD 0) (p.nano.getD 0)

def dateTime? (p : Parts) : Option DateTime := do
  return ⟨← p.date?, ← p.time?⟩

end Parts

namespace Piece

/-- One or more digits, at most `width` of them when a width is given. -/
def number? (width : Option Nat) (s : List Char) : Option (Nat × List Char) :=
  let ds := s.takeWhile Char.isDigit
  let ds := match width with
    | some w => ds.take w
    | none => ds
  if ds = [] then none else some (Decimal.digitsValue ds, s.drop ds.length)

/-- A year has four digits at most, or a sign and any number of digits. -/
def year? : List Char → Option (Int × List Char)
  | '-' :: s => (number? none s).map fun (n, r) => (-(n : Int), r)
  | '+' :: s => (number? none s).map fun (n, r) => ((n : Int), r)
  | s => (number? (some 4) s).map fun (n, r) => ((n : Int), r)

/-- `am` or `pm` in any case. -/
def afternoon? : List Char → Option (Bool × List Char)
  | a :: m :: r =>
    if m.toLower = 'm' then
      if a.toLower = 'a' then some (false, r)
      else if a.toLower = 'p' then some (true, r)
      else none
    else none
  | _ => none

/-- A point and digits; nine of them count and the others are passed over. -/
def fraction? : List Char → Option (Option Nat × List Char)
  | '.' :: s =>
    let ds := s.takeWhile Char.isDigit
    let counted := ds.take 9
    if ds = [] then none
    else some (some (Decimal.digitsValue counted * 10 ^ (9 - counted.length)),
      s.dropWhile Char.isDigit)
  | s => some (none, s)

/-- Numbers may have blank characters in front. -/
def read? (p : Parts) (s : List Char) : Piece → Option (Parts × List Char)
  | .year => (year? (Text.trimStart s)).map fun (y, r) => ({ p with year := some y }, r)
  | .month => two fun n => { p with month := some n }
  | .day => two fun n => { p with day := some n }
  | .hour => two fun n => { p with hour := some n }
  | .halfDayHour => two fun n => { p with halfDayHour := some n }
  | .minute => two fun n => { p with minute := some n }
  | .second => two fun n => { p with second := some n }
  | .halfDay => (afternoon? s).map fun (a, r) => ({ p with afternoon := some a }, r)
  | .fraction => (fraction? s).map fun (n, r) => ({ p with nano := n }, r)
  | .gap => some (p, Text.trimStart s)
  | .exactly c => match s with
    | d :: r => if d = c then some (p, r) else none
    | [] => none
where
  /-- A number of one or two digits. -/
  two (set : Nat → Parts) : Option (Parts × List Char) :=
    (number? (some 2) (Text.trimStart s)).map fun (n, r) => (set n, r)

end Piece

namespace Pattern

/-- The parts that the pieces find, when the text ends with the last piece. -/
def parts? : Pattern → Parts → List Char → Option Parts
  | [], p, [] => some p
  | [], _, _ :: _ => none
  | piece :: rest, p, s =>
    match piece.read? p s with
    | some (p, r) => parts? rest p r
    | none => none

def date? (pattern : Pattern) (s : List Char) : Option Date :=
  (pattern.parts? {} s).bind Parts.date?

def dateTime? (pattern : Pattern) (s : List Char) : Option DateTime :=
  (pattern.parts? {} s).bind Parts.dateTime?

end Pattern

/-! ## Dates and times as they are written in full -/

/-- `2024-02-29`, with blank characters allowed around its parts. -/
def isoDatePattern : Pattern :=
  [.year, .gap, .exactly '-', .month, .gap, .exactly '-', .day, .gap]

/-- `2024-02-29T12:30:00.5`, with blank characters allowed around its parts. -/
def isoDateTimePattern : Pattern :=
  isoDatePattern ++
    [.exactly 'T', .hour, .gap, .exactly ':', .minute, .gap, .exactly ':', .second, .fraction, .gap]

def Date.ofIsoText? (s : String) : Option Date := isoDatePattern.date? s.toList

def DateTime.ofIsoText? (s : String) : Option DateTime := isoDateTimePattern.dateTime? s.toList

end WorkbookQuery
