/-
  Dates, times of day and points in time of the Gregorian calendar, and how they are written.
-/

namespace WorkbookQuery

/-- Every fourth year, but of the full centuries only every fourth. -/
def isLeapYear (y : Int) : Bool := y % 4 = 0 && (y % 100 ≠ 0 || y % 400 = 0)

def daysInMonth (y : Int) (m : Nat) : Nat :=
  if m = 2 then (if isLeapYear y then 29 else 28)
  else if m = 4 ∨ m = 6 ∨ m = 9 ∨ m = 11 then 30
  else 31

/-- The dates that there are: every day of the years from -262143 to 262142. -/
def Date.Valid (y : Int) (m d : Nat) : Prop :=
  -262143 ≤ y ∧ y ≤ 262142 ∧ 1 ≤ m ∧ m ≤ 12 ∧ 1 ≤ d ∧ d ≤ daysInMonth y m

instance (y : Int) (m d : Nat) : Decidable (Date.Valid y m d) := by
  unfold Date.Valid; infer_instance

structure Date where
  year : Int
  month : Nat
  day : Nat
  valid : Date.Valid year month day
  deriving DecidableEq

/-- A leap second may follow any second. It is the second that it follows, and its nanoseconds
are those from 1000000000 on. -/
def Time.Valid (h m s n : Nat) : Prop := h < 24 ∧ m < 60 ∧ s < 60 ∧ n < 2000000000

instance (h m s n : Nat) : Decidable (Time.Valid h m s n) := by
  unfold Time.Valid; infer_instance

structure Time where
  hour : Nat
  minute : Nat
  second : Nat
  nano : Nat
  valid : Time.Valid hour minute second nano
  deriving DecidableEq

structure DateTime where
  date : Date
  time : Time
  deriving DecidableEq

def Date.of? (y : Int) (m d : Nat) : Option Date :=
  if h : Date.Valid y m d then some ⟨y, m, d, h⟩ else none

def Time.of? (h m s n : Nat) : Option Time :=
  if v : Time.Valid h m s n then some ⟨h, m, s, n, v⟩ else none

/-- The time with its second as it is written: second 60 is the leap second after second 59. -/
def Time.ofWritten? (h m s n : Nat) : Option Time :=
  if s = 60 then Time.of? h m 59 (1000000000 + n) else Time.of? h m s n

def Time.midnight : Time := ⟨0, 0, 0, 0, by decide⟩

def Date.atMidnight (d : Date) : DateTime := ⟨d, Time.midnight⟩

theorem Date.of?_self (d : Date) : Date.of? d.year d.month d.day = some d := by
  simp [Date.of?, d.valid]

theorem Time.of?_self (t : Time) : Time.of? t.hour t.minute t.second t.nano = some t := by
  simp [Time.of?, t.valid]

/-- 1970-01-01. -/
def Date.epoch : Date := ⟨1970, 1, 1, by decide⟩

instance : Inhabited Date := ⟨Date.epoch⟩
instance : Inhabited DateTime := ⟨Date.epoch.atMidnight⟩

/-! ## Text -/

/-- The number with zeros in front up to the given width. -/
def padded (width n : Nat) : List Char :=
  let ds := Nat.toDigits 10 n
  List.replicate (width - ds.length) '0' ++ ds

/-- Four digits from 0 to 9999; before and after that a sign and at least four digits. -/
def yearText (y : Int) : List Char :=
  if 0 ≤ y ∧ y ≤ 9999 then padded 4 y.toNat
  else (if y < 0 then '-' else '+') :: padded 4 y.natAbs

def Date.chars (d : Date) : List Char :=
  yearText d.year ++ '-' :: padded 2 d.month ++ '-' :: padded 2 d.day

/-- A leap second is written as the second after the one that it follows. -/
def Time.writtenSecond (t : Time) : Nat := t.second + t.nano / 1000000000

/-- The time without its fraction of a second. -/
def Time.chars (t : Time) : List Char :=
  padded 2 t.hour ++ ':' :: padded 2 t.minute ++ ':' :: padded 2 t.writtenSecond

/-- A fraction of a second in the fewest of 0, 3, 6 or 9 digits that show it in full. -/
def fractionText (nano : Nat) : List Char :=
  if nano = 0 then []
  else if nano % 1000000 = 0 then '.' :: padded 3 (nano / 1000000)
  else if nano % 1000 = 0 then '.' :: padded 6 (nano / 1000)
  else '.' :: padded 9 nano

def Date.text (d : Date) : String := String.ofList d.chars

/-- Date and time with a space between them, without the fraction of a second. -/
def DateTime.text (t : DateTime) : String :=
  String.ofList (t.date.chars ++ ' ' :: t.time.chars)

/-- Date and time with a `T` between them, in full. -/
def DateTime.isoText (t : DateTime) : String :=
  String.ofList (t.date.chars ++ 'T' :: t.time.chars ++ fractionText (t.time.nano % 1000000000))

end WorkbookQuery
