/-
  Dates and points in time as texts. Every date is written with the year first, in four digits or
  with a sign, and every point in time with a blank and its time after that. Of the ways to read a
  text, one reads the text of a date, and as that date (`formats_date`), and one reads the text of
  a point in time, and as that point to the full second (`formats_dateTime`). So it does not
  matter for these texts in which order the ways are tried. Only the leap second after second 59
  can be told from its text (`Time.ofWritten?_writtenSecond`): any other one is written like the
  second that comes after it.
-/
import WorkbookQuery.Proofs.IntegerText
import WorkbookQuery.Proofs.Scanning

namespace WorkbookQuery

/-! ## Digits -/

section Padded

open Decimal

variable (width n : Nat)

theorem isDigits_padded : IsDigits (padded width n) := by
  constructor
  · simp [padded, Nat.toDigits_ne_nil]
  · rw [List.all_eq_true, padded]
    intro d hd
    rcases List.mem_append.mp hd with hzero | hdigit
    · rw [List.eq_of_mem_replicate hzero]
      rfl
    · exact Nat.isDigit_of_mem_toDigits (by decide) (by decide) hdigit

/-- Zeros in front do not count. -/
theorem digitsValue_padded : digitsValue (padded width n) = n := by
  have hdigits : digitsValue (padded width n) = Nat.ofDigitChars 10 (padded width n) 0 := rfl
  rw [hdigits, padded, Nat.ofDigitChars_append, Nat.ofDigitChars_replicate_zero, Nat.mul_zero,
    Nat.ofDigitChars_toDigits (by decide) (by decide)]

theorem length_padded : (padded width n).length = max width (Nat.toDigits 10 n).length := by
  rw [padded, List.length_append, List.length_replicate]
  omega

variable {width n}

theorem length_padded_of_lt (hwidth : 0 < width) (h : n < 10 ^ width) :
    (padded width n).length = width := by
  have hdigits := (Nat.length_toDigits_le_iff (by decide) hwidth).mpr h
  rw [length_padded]
  omega

end Padded

/-- The text starts with a character that is not blank. -/
def Text.StartsBare (s : List Char) : Prop := ∃ c r, s = c :: r ∧ Text.isBlank c = false

section StartsBare

variable {s : List Char}

theorem Text.StartsBare.append (h : Text.StartsBare s) (t : List Char) :
    Text.StartsBare (s ++ t) := by
  obtain ⟨c, r, rfl, hc⟩ := h
  exact ⟨c, r ++ t, rfl, hc⟩

theorem Text.StartsBare.trimStart_eq (h : Text.StartsBare s) : Text.trimStart s = s := by
  obtain ⟨c, r, rfl, hc⟩ := h
  exact List.dropWhile_cons_of_neg (by rw [hc]; exact Bool.false_ne_true)

theorem Decimal.IsDigits.startsBare (h : Decimal.IsDigits s) : Text.StartsBare s := by
  obtain ⟨d, r, rfl⟩ := List.exists_cons_of_ne_nil h.1
  exact ⟨d, r, rfl, Token.Mode.isBlank_of_isDigit (h.isDigit d List.mem_cons_self)⟩

/-- A year starts with a digit or a sign. -/
theorem startsBare_yearText (y : Int) : Text.StartsBare (yearText y) := by
  unfold yearText
  split
  · exact (isDigits_padded 4 y.toNat).startsBare
  · split
    · exact ⟨'-', padded 4 y.natAbs, rfl, by decide⟩
    · exact ⟨'+', padded 4 y.natAbs, rfl, by decide⟩

end StartsBare

section Number

open Decimal

variable {ds : List Char}

/-- As many digits as are wanted are read, and what follows them is left, digits or not. -/
theorem number?_of_width (h : IsDigits ds) {width : Nat} (hwidth : ds.length = width)
    (s : List Char) : Piece.number? (some width) (ds ++ s) = some (digitsValue ds, s) := by
  have hread : (ds ++ s.takeWhile Char.isDigit).take width = ds := List.take_left' hwidth
  simp only [Piece.number?, List.takeWhile_append_of_pos h.isDigit, hread, if_neg h.1,
    List.drop_left]

/-- Of more digits than are wanted the next one is left. -/
theorem number?_of_longer (h : IsDigits ds) {width : Nat} (hwidth : 0 < width)
    (hlonger : width < ds.length) (s : List Char) :
    ∃ n d r, Piece.number? (some width) (ds ++ s) = some (n, d :: r) ∧ d.isDigit = true := by
  have hread : (ds ++ s.takeWhile Char.isDigit).take width = ds.take width :=
    List.take_append_of_le_length (Nat.le_of_lt hlonger)
  have hne : ds.take width ≠ [] := by
    rw [ne_eq, List.take_eq_nil_iff]
    rintro (hzero | hnil)
    · omega
    · exact h.1 hnil
  have hleft : (ds ++ s).drop width = ds[width] :: (ds.drop (width + 1) ++ s) := by
    rw [List.drop_append_of_le_length (Nat.le_of_lt hlonger), List.drop_eq_getElem_cons hlonger,
      List.cons_append]
  refine ⟨digitsValue (ds.take width), ds[width], ds.drop (width + 1) ++ s, ?_,
    h.isDigit _ (List.getElem_mem hlonger)⟩
  simp only [Piece.number?, List.takeWhile_append_of_pos h.isDigit, hread, if_neg hne,
    List.length_take_of_le (Nat.le_of_lt hlonger), hleft]

/-- All digits are read when something else follows them. -/
theorem number?_of_separator (h : IsDigits ds) {c : Char} (hc : c.isDigit = false)
    (s : List Char) : Piece.number? none (ds ++ c :: s) = some (digitsValue ds, c :: s) := by
  have hstop : (c :: s).takeWhile Char.isDigit = [] :=
    List.takeWhile_cons_of_neg (by rw [hc]; exact Bool.false_ne_true)
  simp only [Piece.number?, List.takeWhile_append_of_pos h.isDigit, hstop, List.append_nil,
    if_neg h.1, List.drop_left]

end Number

/-! ## Pieces -/

namespace Piece

/-- Without a sign in front a year is a number of four digits at most. -/
theorem year?_of_isDigits {ds : List Char} (h : Decimal.IsDigits ds) (s : List Char) :
    year? (ds ++ s) = (number? (some 4) (ds ++ s)).map fun (n, r) => ((n : Int), r) := by
  obtain ⟨d, ds, rfl⟩ := List.exists_cons_of_ne_nil h.1
  have hd : d.isDigit = true := h.isDigit d List.mem_cons_self
  rw [List.cons_append]
  unfold year?
  split
  · next hminus =>
    cases hminus
    cases hd
  · next hplus =>
    cases hplus
    cases hd
  · rfl

/-- A year is read back up to the hyphen that ends it. -/
theorem year?_yearText (y : Int) (s : List Char) :
    year? (yearText y ++ '-' :: s) = some (y, '-' :: s) := by
  unfold yearText
  split
  · next hy =>
    have hdigits := isDigits_padded 4 y.toNat
    have hlength : (padded 4 y.toNat).length = 4 :=
      length_padded_of_lt (by decide) (by omega)
    have hvalue : (y.toNat : Int) = y := Int.toNat_of_nonneg hy.1
    rw [year?_of_isDigits hdigits, number?_of_width hdigits hlength, digitsValue_padded]
    exact congrArg (fun y => some (y, '-' :: s)) hvalue
  · next hy =>
    have hread := number?_of_separator (isDigits_padded 4 y.natAbs) (c := '-') rfl s
    rw [digitsValue_padded] at hread
    by_cases hneg : y < 0
    · have hvalue : -(y.natAbs : Int) = y := by omega
      rw [if_pos hneg, List.cons_append, year?, hread]
      exact congrArg (fun y => some (y, '-' :: s)) hvalue
    · have hvalue : (y.natAbs : Int) = y := by omega
      rw [if_neg hneg, List.cons_append, year?, hread]
      exact congrArg (fun y => some (y, '-' :: s)) hvalue

/-- Where a piece of one or two digits puts its number. -/
def two? : Piece → Option (Parts → Nat → Parts)
  | .month => some fun p n => { p with month := some n }
  | .day => some fun p n => { p with day := some n }
  | .hour => some fun p n => { p with hour := some n }
  | .halfDayHour => some fun p n => { p with halfDayHour := some n }
  | .minute => some fun p n => { p with minute := some n }
  | .second => some fun p n => { p with second := some n }
  | _ => none

theorem read?_of_two? {piece : Piece} {set : Parts → Nat → Parts} (h : piece.two? = some set)
    (p : Parts) (s : List Char) : piece.read? p s = read?.two s (set p) := by
  cases piece <;> cases h <;> rfl

theorem two_padded {n : Nat} (h : n < 100) (s : List Char) (set : Nat → Parts) :
    read?.two (padded 2 n ++ s) set = some (set n, s) := by
  have hdigits := isDigits_padded 2 n
  have hlength : (padded 2 n).length = 2 := length_padded_of_lt (by decide) h
  rw [read?.two, (hdigits.startsBare.append s).trimStart_eq, number?_of_width hdigits hlength,
    digitsValue_padded, Option.map_some]

/-- Two digits of a year are followed by a third one, and a sign is not a digit. -/
theorem two_yearText (y : Int) (s : List Char) (set : Nat → Parts) :
    read?.two (yearText y ++ s) set = none ∨
      ∃ p d r, read?.two (yearText y ++ s) set = some (p, d :: r) ∧ d.isDigit = true := by
  rw [read?.two, ((startsBare_yearText y).append s).trimStart_eq]
  unfold yearText
  split
  · right
    have hlonger : 2 < (padded 4 y.toNat).length := by
      rw [length_padded]
      omega
    obtain ⟨n, d, r, hread, hd⟩ :=
      number?_of_longer (isDigits_padded 4 y.toNat) (by decide) hlonger s
    rw [hread]
    exact ⟨set n, d, r, rfl, hd⟩
  · left
    rw [List.cons_append]
    split <;> rfl

end Piece

/-! ## Patterns -/

namespace Pattern

/-- What the pieces find in the front of a text, and the text that they leave. -/
def run? : Pattern → Parts → List Char → Option (Parts × List Char)
  | [], p, s => some (p, s)
  | piece :: rest, p, s => (piece.read? p s).bind fun (p, r) => run? rest p r

/-- The pieces behind others go on where these stop. -/
theorem parts?_append (front back : Pattern) (p : Parts) (s : List Char) :
    (front ++ back).parts? p s = (front.run? p s).bind fun (p, r) => back.parts? p r := by
  induction front generalizing p s with
  | nil => rfl
  | cons piece front ih =>
    rw [List.cons_append, parts?, run?]
    cases piece.read? p s with
    | none => rfl
    | some read => exact ih read.1 read.2

/-- A text is read when nothing of it is left. -/
theorem parts?_eq (pattern : Pattern) (p : Parts) (s : List Char) :
    pattern.parts? p s = (pattern.run? p s).bind fun (p, r) => parts? [] p r := by
  rw [← parts?_append, List.append_nil]

section Steps

variable (rest : Pattern) (p : Parts) (s : List Char)

theorem run?_year (y : Int) : run? (.year :: rest) p (yearText y ++ '-' :: s) =
    run? rest { p with year := some y } ('-' :: s) := by
  rw [run?, Piece.read?, ((startsBare_yearText y).append _).trimStart_eq, Piece.year?_yearText]
  rfl

@[simp] theorem run?_exactly (c : Char) : run? (.exactly c :: rest) p (c :: s) = run? rest p s := by
  simp [run?, Piece.read?]

variable {rest p s} {piece : Piece} {set : Parts → Nat → Parts}

theorem run?_two (hpiece : piece.two? = some set) {n : Nat} (h : n < 100) :
    run? (piece :: rest) p (padded 2 n ++ s) = run? rest (set p n) s := by
  rw [run?, Piece.read?_of_two? hpiece, Piece.two_padded h]
  rfl

/-- After two digits at the front of a year no separator is found. -/
theorem parts?_two_year (hpiece : piece.two? = some set) {c : Char} (hc : c.isDigit = false)
    (y : Int) : parts? (piece :: .exactly c :: rest) p (yearText y ++ s) = none := by
  rw [parts?, Piece.read?_of_two? hpiece]
  rcases Piece.two_yearText y s (set p) with hnone | ⟨q, d, r, hsome, hd⟩
  · rw [hnone]
  · have hne : d ≠ c := by
      rintro rfl
      rw [hc] at hd
      cases hd
    rw [hsome]
    simp [parts?, Piece.read?, hne]

end Steps

end Pattern

/-! ## Dates -/

section Date

open Value

variable (d : Date) (back : Pattern) (s : List Char)

/-- What the text of a date tells. -/
def Date.parts : Parts := { year := some d.year, month := some d.month, day := some d.day }

theorem Date.chars_append : d.chars ++ s =
    yearText d.year ++ '-' :: (padded 2 d.month ++ '-' :: (padded 2 d.day ++ s)) := by
  simp [Date.chars]

theorem Date.month_lt : d.month < 100 := by
  have hmonth : d.month ≤ 12 := d.valid.2.2.2.1
  omega

theorem Date.day_lt : d.day < 100 := by
  have hday : d.day ≤ daysInMonth d.year d.month := d.valid.2.2.2.2.2
  have hdays : daysInMonth d.year d.month ≤ 31 := by
    unfold daysInMonth
    split
    · split <;> omega
    · split <;> omega
  omega

/-- With the year first a date is read, and what follows it is left. -/
theorem parts?_yearMonthDay :
    (yearMonthDay ++ back).parts? {} (d.chars ++ s) = back.parts? d.parts s := by
  rw [Pattern.parts?_append, d.chars_append, yearMonthDay, Pattern.run?_year,
    Pattern.run?_exactly, Pattern.run?_two rfl d.month_lt, Pattern.run?_exactly,
    Pattern.run?_two rfl d.day_lt]
  rfl

theorem parts?_monthDayYear : (monthDayYear ++ back).parts? {} (d.chars ++ s) = none := by
  rw [d.chars_append]
  exact Pattern.parts?_two_year rfl rfl d.year

theorem parts?_dayMonthYear :
    Pattern.parts? [.day, .exactly '.', .month, .exactly '.', .year] {} (d.chars ++ s) = none := by
  rw [d.chars_append]
  exact Pattern.parts?_two_year rfl rfl d.year

end Date

/-! ## Times -/

section Time

open Value

variable (t : Time)

/-- The time is in a leap second. -/
def Time.IsLeap : Prop := 1000000000 ≤ t.nano

instance : Decidable t.IsLeap := by
  unfold Time.IsLeap; infer_instance

/-- The time to the full second, as far as its text tells it. The leap second after second 59
stays one. A leap second after any other second becomes the second that comes after it. -/
def Time.wholeSeconds : Time :=
  if t.IsLeap then
    if hlast : t.second = 59 then
      ⟨t.hour, t.minute, 59, 1000000000, t.valid.1, t.valid.2.1, by decide, by decide⟩
    else
      have hsecond : t.second + 1 < 60 := by
        have hvalid := t.valid.2.2.1
        omega
      ⟨t.hour, t.minute, t.second + 1, 0, t.valid.1, t.valid.2.1, hsecond, by decide⟩
  else ⟨t.hour, t.minute, t.second, 0, t.valid.1, t.valid.2.1, t.valid.2.2.1, by decide⟩

theorem Time.writtenSecond_of_isLeap (h : t.IsLeap) : t.writtenSecond = t.second + 1 := by
  have hnano : t.nano < 2000000000 := t.valid.2.2.2
  unfold IsLeap at h
  unfold writtenSecond
  omega

theorem Time.writtenSecond_of_not_isLeap (h : ¬ t.IsLeap) : t.writtenSecond = t.second := by
  unfold IsLeap at h
  unfold writtenSecond
  omega

theorem Time.writtenSecond_le : t.writtenSecond ≤ 60 := by
  have hsecond : t.second < 60 := t.valid.2.2.1
  by_cases h : t.IsLeap
  · rw [t.writtenSecond_of_isLeap h]
    omega
  · rw [t.writtenSecond_of_not_isLeap h]
    omega

/-- What is written of a time gives it back to the full second. -/
theorem Time.ofWritten?_writtenSecond :
    Time.ofWritten? t.hour t.minute t.writtenSecond 0 = some t.wholeSeconds := by
  have hsecond : t.second < 60 := t.valid.2.2.1
  unfold wholeSeconds
  split
  · next hleap =>
    rw [t.writtenSecond_of_isLeap hleap]
    split
    · next hlast =>
      rw [hlast]
      exact Time.of?_self ⟨t.hour, t.minute, 59, 1000000000, _⟩
    · next hlast =>
      rw [ofWritten?, if_neg (by omega)]
      exact Time.of?_self ⟨t.hour, t.minute, t.second + 1, 0, _⟩
  · next hleap =>
    rw [t.writtenSecond_of_not_isLeap hleap, ofWritten?, if_neg (by omega)]
    exact Time.of?_self ⟨t.hour, t.minute, t.second, 0, _⟩

/-- What the text of a time tells. -/
def Time.parts (p : Parts) : Parts :=
  { p with hour := some t.hour, minute := some t.minute, second := some t.writtenSecond }

theorem run?_hoursMinutes (back : Pattern) (p : Parts) :
    Pattern.run? (.hour :: .exactly ':' :: .minute :: back) p t.chars =
      back.run? { p with hour := some t.hour, minute := some t.minute }
        (':' :: padded 2 t.writtenSecond) := by
  have hhour : t.hour < 100 := Nat.lt_trans t.valid.1 (by decide)
  have hminute : t.minute < 100 := Nat.lt_trans t.valid.2.1 (by decide)
  rw [Time.chars, List.append_assoc, List.cons_append, Pattern.run?_two rfl hhour,
    Pattern.run?_exactly, Pattern.run?_two rfl hminute]

theorem parts?_hoursMinutesSeconds (p : Parts) :
    hoursMinutesSeconds.parts? p t.chars = some (t.parts p) := by
  have hsecond : t.writtenSecond < 100 := Nat.lt_of_le_of_lt t.writtenSecond_le (by decide)
  rw [Pattern.parts?_eq, hoursMinutesSeconds, run?_hoursMinutes, Pattern.run?_exactly,
    ← List.append_nil (padded 2 t.writtenSecond), Pattern.run?_two rfl hsecond]
  rfl

/-- Without a place for them the seconds are left. -/
theorem parts?_hoursMinutes (p : Parts) :
    Pattern.parts? [.hour, .exactly ':', .minute] p t.chars = none := by
  rw [Pattern.parts?_eq, run?_hoursMinutes]
  rfl

/-- The blank before a time is a gap. -/
theorem parts?_gap (back : Pattern) (p : Parts) :
    Pattern.parts? (.gap :: back) p (' ' :: t.chars) = back.parts? p t.chars := by
  have hblank : Text.trimStart (' ' :: t.chars) = Text.trimStart t.chars :=
    List.dropWhile_cons_of_pos (by decide)
  have hstart : Text.StartsBare t.chars :=
    ((isDigits_padded 2 t.hour).startsBare.append _).append _
  rw [Pattern.parts?, Piece.read?, hblank, hstart.trimStart_eq]

end Time

/-- The point in time to the full second. -/
def DateTime.wholeSeconds (t : DateTime) : DateTime := ⟨t.date, t.time.wholeSeconds⟩

/-! ## Ways to read a text -/

namespace Value

/-- The ways to read a text, in the order in which they are tried. -/
def formats : List (List Char → Option DateTime) :=
  dateTimePatterns.map Pattern.dateTime? ++
    datePatterns.map fun pattern s => (pattern.date? s).map Date.atMidnight

/-- The first way in which a text can be read decides. -/
theorem dateTimeOfText?_eq (s : List Char) :
    dateTimeOfText? s = (formats.map (· s)).findSome? id := by
  simp only [dateTimeOfText?, formats, List.map_append, List.map_map, List.findSome?_append,
    List.findSome?_map, Function.comp_def, id]
  cases dateTimePatterns.findSome? fun pattern => pattern.dateTime? s with
  | some t => rfl
  | none => exact List.map_findSome?

/-- A text that starts with a date is read with the year first or not at all. -/
theorem formats_append (d : Date) (s : List Char) : formats.map (· (d.chars ++ s)) =
    [(Pattern.parts? (.gap :: hoursMinutesSeconds) d.parts s).bind Parts.dateTime?,
      (Pattern.parts? (.exactly 'T' :: hoursMinutesSeconds) d.parts s).bind Parts.dateTime?,
      (Pattern.parts? [.gap, .hour, .exactly ':', .minute] d.parts s).bind Parts.dateTime?,
      none, none,
      ((Pattern.parts? [] d.parts s).bind Parts.date?).map Date.atMidnight, none, none] := by
  have hyear := parts?_yearMonthDay d [] s
  have hmonth := parts?_monthDayYear d [] s
  rw [List.append_nil] at hyear hmonth
  simp only [formats, dateTimePatterns, datePatterns, List.map_cons, List.map_nil,
    List.cons_append, List.nil_append, Pattern.dateTime?, Pattern.date?, parts?_yearMonthDay,
    parts?_monthDayYear, parts?_dayMonthYear, hyear, hmonth, Option.bind_none, Option.map_none]

/-- One way of all reads the text of a date, and as this date. -/
theorem formats_date (d : Date) : formats.map (· d.chars) =
    [none, none, none, none, none, some d.atMidnight, none, none] := by
  have hdate : d.parts.date? = some d := d.of?_self
  have hend : Pattern.parts? [] d.parts [] = some d.parts := rfl
  have hformats := formats_append d []
  rw [hend, Option.bind_some, hdate, List.append_nil] at hformats
  exact hformats

/-- One way of all reads the text of a point in time, and as this point to the full second. -/
theorem formats_dateTime (t : DateTime) :
    formats.map (· (t.date.chars ++ ' ' :: t.time.chars)) =
      [some t.wholeSeconds, none, none, none, none, none, none, none] := by
  have hdate : (t.time.parts t.date.parts).date? = some t.date := t.date.of?_self
  have htime : (t.time.parts t.date.parts).time? = some t.time.wholeSeconds :=
    t.time.ofWritten?_writtenSecond
  have hdateTime : (t.time.parts t.date.parts).dateTime? = some t.wholeSeconds := by
    rw [Parts.dateTime?, hdate, htime]
    rfl
  have hformats := formats_append t.date (' ' :: t.time.chars)
  rw [parts?_gap, parts?_gap, parts?_hoursMinutesSeconds, parts?_hoursMinutes, Option.bind_some,
    hdateTime] at hformats
  exact hformats

end Value

end WorkbookQuery
