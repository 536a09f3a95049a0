/-
  Serial dates: a worksheet counts days from 1899-12-30, and the fraction is the time of day.
-/
import WorkbookQuery.Calendar.Date
import WorkbookQuery.Decimal.Binary64

namespace WorkbookQuery

/-- The date that lies the given number of days after 1970-01-01. Years are counted from
March, so that a leap day is the last day of its year, in eras of 400 years. -/
def Date.ofDayNumber? (n : Int) : Option Date :=
  let z := n + 719468
  let era := z / 146097
  let doe := (z % 146097).toNat
  let yoe := (doe - doe / 1460 + doe / 36524 - doe / 146096) / 365
  let doy := doe - (365 * yoe + yoe / 4 - yoe / 100)
  let mp := (5 * doy + 2) / 153
  let d := doy - (153 * mp + 2) / 5 + 1
  let m := if mp < 10 then mp + 3 else mp - 9
  let y : Int := yoe + era * 400
  Date.of? (if m ≤ 2 then y + 1 else y) m d

/-- The day number of 1899-12-30. -/
def serialEpoch : Int := -25569

def millisPerDay : Nat := 86400000

/-- The point in time that lies the given number of milliseconds after 1899-12-30. -/
def DateTime.ofSerialMillis? (millis : Int) : Option DateTime := do
  let date ← Date.ofDayNumber? (serialEpoch + millis / millisPerDay)
  let ms := (millis % millisPerDay).toNat
  let time ← Time.of? (ms / 3600000) (ms / 60000 % 60) (ms / 1000 % 60) (ms % 1000 * 1000000)
  return ⟨date, time⟩

/-- Serial numbers from 0 to 2958465, that is 9999-12-31, to the nearest millisecond. -/
def DateTime.ofSerial? (x : Binary64) : Option DateTime := do
  if x.isUpTo 2958465 then
    DateTime.ofSerialMillis? (← (x.mul (Binary64.ofInt millisPerDay)).nearestInt?)
  else none

end WorkbookQuery
