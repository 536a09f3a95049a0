/-
  Values by way of their texts. An integer, a truth value, a date or a point in time that becomes
  a text, is set between blank characters and is read again as what it was, is what it was, save
  that the fraction of a second is lost (`text_round_trip`). No way to read dates makes anything
  else of the text. What is lost besides is that a second was a leap second, unless it was the
  one after second 59 (`leap_second_read_as_next`).
-/
import WorkbookQuery.Proofs.DateText

namespace WorkbookQuery

/-! ## Blank characters around a text -/

namespace Text

/-- No blank character is at either end of the text, and it is not empty. -/
structure IsBare (s : List Char) : Prop where
  start : StartsBare s
  ending : StartsBare s.reverse

variable {s ds before after : List Char}

theorem startsBare_reverse_of_isDigits (h : Decimal.IsDigits ds) : StartsBare ds.reverse := by
  have hreverse : Decimal.IsDigits ds.reverse :=
    ⟨List.reverse_ne_nil_iff.mpr h.1, List.all_reverse.trans h.2⟩
  exact hreverse.startsBare

theorem isBare_of_isDigits (h : Decimal.IsDigits ds) : IsBare ds :=
  ⟨h.startsBare, startsBare_reverse_of_isDigits h⟩

/-- What starts without a blank and ends with digits has none at either end. -/
theorem isBare_append (hs : StartsBare s) (hds : Decimal.IsDigits ds) : IsBare (s ++ ds) where
  start := hs.append ds
  ending := by
    rw [List.reverse_append]
    exact (startsBare_reverse_of_isDigits hds).append s.reverse

/-- Trimming takes away what was set around. -/
theorem IsBare.trim_surrounded (h : IsBare s) (hbefore : ∀ c ∈ before, isBlank c = true)
    (hafter : ∀ c ∈ after, isBlank c = true) : trim (before ++ s ++ after) = s := by
  have hstart : trimStart (before ++ (s ++ after)) = s ++ after := by
    rw [trimStart, List.dropWhile_append_of_pos hbefore]
    exact (h.start.append after).trimStart_eq
  have hreverse : ∀ c ∈ after.reverse, isBlank c = true := fun c hc =>
    hafter c (List.mem_reverse.mp hc)
  have hending : trimStart (after.reverse ++ s.reverse) = s.reverse := by
    rw [trimStart, List.dropWhile_append_of_pos hreverse]
    exact h.ending.trimStart_eq
  rw [List.append_assoc, trim, hstart, trimEnd, List.reverse_append]
  exact (congrArg List.reverse hending).trans (List.reverse_reverse s)

end Text

/-! ## Texts of values -/

theorem Decimal.Denotes.isBare {s : List Char} {n : Int} (h : Decimal.Denotes s n) :
    Text.IsBare s := by
  cases h with
  | unsigned hds => exact Text.isBare_of_isDigits hds
  | plus hds => exact Text.isBare_append ⟨'+', [], rfl, by decide⟩ hds
  | minus hds => exact Text.isBare_append ⟨'-', [], rfl, by decide⟩ hds

/-- The text of an integer is one of digits, and its number is the integer. -/
theorem denotes_toString (n : Int) : Decimal.Denotes (toString n).toList n := by
  have hdigits (m : Nat) : Decimal.IsDigits (Nat.toDigits 10 m) ∧
      Decimal.number (Nat.toDigits 10 m) = m := by
    have hpadded := isDigits_padded 0 m
    have hvalue := digitsValue_padded 0 m
    rw [padded, Nat.zero_sub, List.replicate_zero, List.nil_append] at hpadded hvalue
    rw [Decimal.digitsValue_eq_number] at hvalue
    exact ⟨hpadded, hvalue⟩
  cases n with
  | ofNat m =>
    have htext : (toString (Int.ofNat m)).toList = Nat.toDigits 10 m := Nat.toList_repr
    have hdenotes := Decimal.Denotes.unsigned (hdigits m).1
    rw [(hdigits m).2] at hdenotes
    rw [htext]
    exact hdenotes
  | negSucc m =>
    have htext : (toString (Int.negSucc m)).toList = '-' :: Nat.toDigits 10 (m + 1) := by
      have hrepr : toString (Int.negSucc m) = "-" ++ Nat.repr (m + 1) := rfl
      rw [hrepr, String.toList_append, Nat.toList_repr]
      rfl
    have hdenotes := Decimal.Denotes.minus (hdigits (m + 1)).1
    rw [(hdigits (m + 1)).2] at hdenotes
    rw [htext]
    exact hdenotes

theorem Date.isBare_chars (d : Date) : Text.IsBare d.chars := by
  have hstart : Text.StartsBare (yearText d.year ++ '-' :: padded 2 d.month ++ ['-']) :=
    ((startsBare_yearText d.year).append _).append _
  have hchars : d.chars =
      yearText d.year ++ '-' :: padded 2 d.month ++ ['-'] ++ padded 2 d.day := by
    simp [Date.chars]
  rw [hchars]
  exact Text.isBare_append hstart (isDigits_padded 2 d.day)

theorem DateTime.isBare_chars (t : DateTime) :
    Text.IsBare (t.date.chars ++ ' ' :: t.time.chars) := by
  have hchars : t.date.chars ++ ' ' :: t.time.chars =
      t.date.chars ++ (' ' :: padded 2 t.time.hour ++ ':' :: padded 2 t.time.minute ++ [':']) ++
        padded 2 t.time.writtenSecond := by
    simp [Time.chars]
  rw [hchars]
  exact Text.isBare_append (t.date.isBare_chars.start.append _)
    (isDigits_padded 2 t.time.writtenSecond)

namespace Value

/-- What a text keeps of a value: of a point in time what it keeps of the time, and of every
other value all. -/
def wholeSeconds : Value → Value
  | .dateTime t => .dateTime t.wholeSeconds
  | v => v

/-- The types whose values can be read from their texts. -/
def textTypes : List ScalarType := [.integer, .boolean, .date, .dateTime]

variable {v : Value} {type : ScalarType} {s : String}

theorem toList_render_date (d : Date) : (Value.date d).render.toList = d.chars :=
  String.toList_ofList

theorem toList_render_dateTime (t : DateTime) :
    (Value.dateTime t).render.toList = t.date.chars ++ ' ' :: t.time.chars :=
  String.toList_ofList

theorem isBare_render (hv : v.type? = some type) (htype : type ∈ textTypes) :
    Text.IsBare v.render.toList := by
  cases v with
  | null => cases hv
  | float | text =>
    cases hv
    simp [textTypes] at htype
  | boolean b =>
    cases b with
    | true => exact ⟨⟨'t', _, rfl, by decide⟩, ⟨'e', _, rfl, by decide⟩⟩
    | false => exact ⟨⟨'f', _, rfl, by decide⟩, ⟨'e', _, rfl, by decide⟩⟩
  | integer n => exact (denotes_toString n.toInt).isBare
  | date d =>
    rw [toList_render_date]
    exact d.isBare_chars
  | dateTime t =>
    rw [toList_render_dateTime]
    exact t.isBare_chars

theorem dateTimeOfText?_date (d : Date) : dateTimeOfText? d.chars = some d.atMidnight := by
  rw [dateTimeOfText?_eq, formats_date]
  rfl

theorem dateTimeOfText?_dateTime (t : DateTime) :
    dateTimeOfText? (t.date.chars ++ ' ' :: t.time.chars) = some t.wholeSeconds := by
  rw [dateTimeOfText?_eq, formats_dateTime]
  rfl

/-- What is written and read again is what it was, to the full second. -/
theorem convert?_of_render (hv : v.type? = some type) (htype : type ∈ textTypes)
    (hs : Text.trim s.toList = v.render.toList) :
    (Value.text s).convert? type = some v.wholeSeconds := by
  cases v with
  | null => cases hv
  | float | text =>
    cases hv
    simp [textTypes] at htype
  | boolean b =>
    cases hv
    have htrimmed : Text.trimmed s = (Value.boolean b).render := by
      rw [Text.trimmed, hs, String.ofList_toList]
    rw [convert?, toBoolean?, htrimmed]
    cases b <;> decide
  | integer n =>
    cases hv
    have hread := integerOfText?_of_range (denotes_toString n.toInt) ⟨n.le_toInt, n.toInt_lt⟩
    rw [convert?, toInteger?, hs, render, hread, Int64.ofInt_toInt]
    rfl
  | date d =>
    cases hv
    rw [convert?, toDateTime?, hs, toList_render_date, dateTimeOfText?_date]
    rfl
  | dateTime t =>
    cases hv
    rw [convert?, toDateTime?, hs, toList_render_dateTime, dateTimeOfText?_dateTime]
    rfl

/-- The text of a date or of a point in time is read as nothing else. -/
theorem toDateTime?_of_format (hv : v.type? = some type) (htype : type = .date ∨ type = .dateTime)
    {format : List Char → Option DateTime} (hformat : format ∈ formats) {t : DateTime}
    (ht : format v.render.toList = some t) : v.wholeSeconds.toDateTime? = some t := by
  have hmem : some t ∈ formats.map (· v.render.toList) := List.mem_map.mpr ⟨format, hformat, ht⟩
  cases v with
  | null => cases hv
  | float | text | boolean | integer =>
    cases hv
    simp at htype
  | date d =>
    rw [toList_render_date, formats_date] at hmem
    have heq : t = d.atMidnight := by simpa using hmem
    rw [heq]
    rfl
  | dateTime d =>
    rw [toList_render_dateTime, formats_dateTime] at hmem
    have heq : t = d.wholeSeconds := by simpa using hmem
    rw [heq]
    rfl

end Value

/-- An integer, a truth value, a date or a point in time has a text. With blank characters set
around it or without them, the text becomes what it was the text of when it is read as a value of
that type, save that a point in time loses the fraction of its second, and with it a leap second
that is not the one after second 59 becomes the second that comes after it. None of the ways in
which dates are written takes the text of a date or of a point in time for another one. -/
theorem text_round_trip {v : Value} {type : ScalarType} (hv : v.type? = some type)
    (htype : type ∈ Value.textTypes) {before after : String}
    (hbefore : ∀ c ∈ before.toList, Text.isBlank c = true)
    (hafter : ∀ c ∈ after.toList, Text.isBlank c = true) :
    let text := before ++ v.render ++ after
    v.coerce .text = .ok (.text v.render) ∧
      (Value.text text).coerce type = .ok v.wholeSeconds ∧
      (type = .date ∨ type = .dateTime → ∀ format ∈ Value.formats, ∀ t,
        format (Text.trim text.toList) = some t → v.wholeSeconds.toDateTime? = some t) := by
  intro text
  have htrim : Text.trim text.toList = v.render.toList := by
    rw [String.toList_append, String.toList_append]
    exact (Value.isBare_render hv htype).trim_surrounded hbefore hafter
  refine ⟨?_, ?_, fun hdate format hformat t ht => ?_⟩
  · cases v with
    | null => cases hv
    | boolean | integer | float | text | dateTime | date => rfl
  · rw [Value.coerce, Value.convert?_of_render hv htype htrim]
    rfl
  · rw [htrim] at ht
    exact Value.toDateTime?_of_format hv hdate hformat ht

/-- The least integer, a day before the year 0 and a leap second of the year 12345, a fraction of
which is lost. -/
theorem text_round_trip_leap_second :
    let day : Date := ⟨-1, 2, 28, by decide⟩
    let date : Date := ⟨12345, 12, 31, by decide⟩
    let t : DateTime := ⟨date, ⟨23, 59, 59, 1500000000, by decide⟩⟩
    (Value.text " -9223372036854775808").coerce .integer = .ok (.integer Int64.minValue) ∧
      (Value.text "-0001-02-28\n").coerce .date = .ok (.date day) ∧
      (Value.dateTime t).coerce .text = .ok (.text "+12345-12-31 23:59:60") ∧
      (Value.text "\t+12345-12-31 23:59:60 ").coerce .dateTime =
        .ok (.dateTime ⟨date, ⟨23, 59, 59, 1000000000, by decide⟩⟩) := by
  intro day date t
  have hempty : ∀ c ∈ "".toList, Text.isBlank c = true :=
    List.all_eq_true.mp (by decide)
  have hspace : ∀ c ∈ " ".toList, Text.isBlank c = true :=
    List.all_eq_true.mp (by decide)
  have htab : ∀ c ∈ "\t".toList, Text.isBlank c = true :=
    List.all_eq_true.mp (by decide)
  have hnewline : ∀ c ∈ "\n".toList, Text.isBlank c = true :=
    List.all_eq_true.mp (by decide)
  have hleast := @text_round_trip (.integer Int64.minValue) .integer rfl (by decide)
    " " "" hspace hempty
  have hday := @text_round_trip (.date day) .date rfl (by decide) "" "\n" hempty hnewline
  have ht := @text_round_trip (.dateTime t) .dateTime rfl (by decide) "\t" " " htab hspace
  have hleastText : " " ++ (Value.integer Int64.minValue).render ++ "" =
      " -9223372036854775808" := by decide +kernel
  have hdayText : "" ++ (Value.date day).render ++ "\n" = "-0001-02-28\n" := by decide +kernel
  have htext : (Value.dateTime t).render = "+12345-12-31 23:59:60" := by decide +kernel
  have hpadded : "\t" ++ "+12345-12-31 23:59:60" ++ " " = "\t+12345-12-31 23:59:60 " := by
    decide +kernel
  rw [hleastText] at hleast
  rw [hdayText] at hday
  rw [htext, hpadded] at ht
  exact ⟨hleast.2.1, hday.2.1, ht.1, ht.2.1⟩

/-- The leap second after second 23 has the text of second 24, which is read as second 24. -/
theorem leap_second_read_as_next :
    let day : Date := ⟨2023, 3, 15, by decide⟩
    let leap : DateTime := ⟨day, ⟨20, 19, 23, 1000000000, by decide⟩⟩
    let next : DateTime := ⟨day, ⟨20, 19, 24, 0, by decide⟩⟩
    (Value.dateTime leap).coerce .text = .ok (.text "2023-03-15 20:19:24") ∧
      (Value.text "2023-03-15 20:19:24").coerce .dateTime = .ok (.dateTime next) ∧
      leap.time.IsLeap ∧ ¬ next.time.IsLeap := by
  intro day leap next
  have htext : (Value.dateTime leap).render = "2023-03-15 20:19:24" := by decide +kernel
  have hwhole : leap.wholeSeconds = next := by decide
  have hread : (Value.text "2023-03-15 20:19:24").convert? .dateTime = some (.dateTime next) := by
    rw [← hwhole]
    apply Value.convert?_of_render (v := .dateTime leap) rfl (by decide)
    rw [htext]
    decide +kernel
  refine ⟨?_, ?_, by decide, by decide⟩
  · rw [Value.coerce, Value.convert?, htext]
    rfl
  · rw [Value.coerce, hread]
    rfl

end WorkbookQuery
