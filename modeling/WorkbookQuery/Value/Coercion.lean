/-
  Conversion of loosely typed cells to a declared type. Null stays null; everything else either
  has a counterpart of the target type or is refused.
-/
import WorkbookQuery.Fault
import WorkbookQuery.Decimal.Numeral
import WorkbookQuery.Calendar.Pattern
import WorkbookQuery.Calendar.Serial

namespace WorkbookQuery.Value

/-! ## Integers -/

/-- A whole number of the 64-bit range. -/
def int64? (n : Int) : Option Int64 :=
  if -2 ^ 63 ≤ n ∧ n < 2 ^ 63 then some (Int64.ofInt n) else none

/-- A whole number from `-2^63` to `2^63`; the upper bound itself becomes the greatest
integer. -/
def wholeToInteger? (x : Binary64) : Option Int64 :=
  x.toInt?.bind fun n => if n = 2 ^ 63 then some Int64.maxValue else int64? n

/-- An integer, or failing that a floating-point number that is whole. -/
def integerOfText? (s : List Char) : Option Int64 :=
  match (Decimal.readInt? s).bind int64? with
  | some n => some n
  | none => (Decimal.readBinary64? s).bind wholeToInteger?

def toInteger? : Value → Option Int64
  | .integer n => some n
  | .float x => wholeToInteger? x
  | .boolean b => some (if b then 1 else 0)
  | .text s => integerOfText? (Text.trim s.toList)
  | _ => none

/-! ## Floating-point numbers and truth values -/

def toFloat? : Value → Option Binary64
  | .integer n => some (Binary64.ofInt n.toInt)
  | .float x => some x
  | .boolean b => some (Binary64.ofInt (if b then 1 else 0))
  | .text s => (Decimal.readBinary64? (Text.trim s.toList)).filter Binary64.isFinite
  | _ => none

def booleanOfText? (s : String) : Option Bool :=
  if ["true", "yes", "1"].contains s then some true
  else if ["false", "no", "0"].contains s then some false
  else none

/-- Zero is false and every other number true. -/
def toBoolean? : Value → Option Bool
  | .boolean b => some b
  | .integer n => some (n != 0)
  | .float x => some (!x.isZero)
  | .text s => booleanOfText? (Text.lowerAscii (Text.trimmed s))
  | _ => none

/-! ## Dates and times -/

def hoursMinutesSeconds : Pattern :=
  [.hour, .exactly ':', .minute, .exactly ':', .second]

def yearMonthDay : Pattern := [.year, .exactly '-', .month, .exactly '-', .day]

def monthDayYear : Pattern := [.month, .exactly '/', .day, .exactly '/', .year]

/-- The ways to write a point in time, in the order in which they are tried. -/
def dateTimePatterns : List Pattern :=
  [yearMonthDay ++ .gap :: hoursMinutesSeconds,
   yearMonthDay ++ .exactly 'T' :: hoursMinutesSeconds,
   yearMonthDay ++ .gap :: [.hour, .exactly ':', .minute],
   monthDayYear ++ .gap :: hoursMinutesSeconds,
   monthDayYear ++ .gap :: [.halfDayHour, .exactly ':', .minute, .exactly ':', .second,
     .gap, .halfDay]]

/-- The ways to write a date, tried after those of a point in time. -/
def datePatterns : List Pattern :=
  [yearMonthDay, monthDayYear, [.day, .exactly '.', .month, .exactly '.', .year]]

/-- The first pattern that reads the text decides; a date alone means its midnight. -/
def dateTimeOfText? (s : List Char) : Option DateTime :=
  match dateTimePatterns.findSome? (·.dateTime? s) with
  | some t => some t
  | none => (datePatterns.findSome? (·.date? s)).map Date.atMidnight

def toDateTime? : Value → Option DateTime
  | .dateTime t => some t
  | .date d => some d.atMidnight
  | .integer n => DateTime.ofSerial? (Binary64.ofInt n.toInt)
  | .float x => DateTime.ofSerial? x
  | .text s => dateTimeOfText? (Text.trim s.toList)
  | _ => none

/-! ## Coercion -/

/-- The counterpart of a value that is not null. -/
def convert? (v : Value) : ScalarType → Option Value
  | .text => some (.text v.render)
  | .integer => v.toInteger?.map .integer
  | .float => v.toFloat?.map .float
  | .boolean => v.toBoolean?.map .boolean
  | .dateTime => v.toDateTime?.map .dateTime
  | .date => v.toDateTime?.map fun t => .date t.date

def coerce (v : Value) (target : ScalarType) : Except Fault Value :=
  if v.isNull then .ok .null
  else match v.convert? target with
    | some w => .ok w
    | none => .error (Fault.ofConversion v target)

/-- Everything has a text. -/
theorem coerce_text_isOk (v : Value) : ∃ w, v.coerce .text = .ok w := by
  unfold coerce
  cases v.isNull <;> simp [convert?]

/-- A counterpart is of the target type. -/
theorem type?_of_convert? {v w : Value} {t : ScalarType} (h : v.convert? t = some w) :
    w.type? = some t := by
  cases t with
  | text => rw [convert?, Option.some.injEq] at h; subst h; rfl
  | integer | float | boolean | dateTime | date =>
    rw [convert?, Option.map_eq_some_iff] at h
    obtain ⟨_, _, rfl⟩ := h
    rfl

/-- What a coercion yields is null or of the target type. -/
theorem type?_of_coerce {v w : Value} {t : ScalarType} (h : v.coerce t = .ok w) :
    w = .null ∨ w.type? = some t := by
  rw [coerce] at h
  split at h
  · exact .inl (Except.ok.inj h).symm
  · split at h
    · next hc => exact .inr (Except.ok.inj h ▸ type?_of_convert? hc)
    · cases h

end WorkbookQuery.Value
