/-
  Texts of whole numbers as integers. A text of digits in the range of the integers is read
  digit by digit, and becomes its number. One out of range is read as a floating-point number
  after that, and a floating-point number at an end of the range is taken for that end. So up to
  1024 beyond the range, which is half a step of the floating-point numbers there, a text becomes
  an integer that is not its number; farther out it is refused (`coerce_integer_text`).
-/
import WorkbookQuery.Proofs.Outcome
import WorkbookQuery.Value.Coercion

namespace WorkbookQuery

/-! ## The number of a text -/

namespace Decimal

/-- One or more ASCII digits. -/
def IsDigits (ds : List Char) : Prop := ds ≠ [] ∧ ds.all Char.isDigit = true

/-- The number that a row of digits stands for: the last digit counts ones, and every other one ten
times what the digit behind it counts. -/
def number : List Char → Nat
  | [] => 0
  | d :: ds => (d.toNat - '0'.toNat) * 10 ^ ds.length + number ds

/-- A text of digits, with a sign or without one, and its number. -/
inductive Denotes : List Char → Int → Prop where
  | unsigned {ds : List Char} : IsDigits ds → Denotes ds (number ds)
  | plus {ds : List Char} : IsDigits ds → Denotes ('+' :: ds) (number ds)
  | minus {ds : List Char} : IsDigits ds → Denotes ('-' :: ds) (-(number ds : Int))

/-- Digits behind others, by induction on them. -/
theorem foldl_digits (ds : List Char) (n : Nat) :
    ds.foldl (fun n d => 10 * n + (d.toNat - '0'.toNat)) n = n * 10 ^ ds.length + number ds := by
  induction ds generalizing n with
  | nil => rw [List.foldl_nil, List.length_nil, number, Nat.pow_zero, Nat.mul_one, Nat.add_zero]
  | cons d ds ih =>
    rw [List.foldl_cons, ih, number, List.length_cons, Nat.pow_succ, Nat.add_mul, Nat.add_assoc,
      Nat.mul_comm 10 n, Nat.mul_assoc, Nat.mul_comm 10]

theorem digitsValue_eq_number (ds : List Char) : digitsValue ds = number ds := by
  rw [digitsValue, foldl_digits, Nat.zero_mul, Nat.zero_add]

variable {s ds : List Char} {n : Int}

theorem IsDigits.isDigit (h : IsDigits ds) : ∀ d ∈ ds, d.isDigit = true :=
  List.all_eq_true.mp h.2

/-- A row of digits has no sign in front. -/
theorem splitSign_of_isDigits (h : IsDigits ds) : splitSign ds = (false, ds) := by
  unfold splitSign
  split
  · exact absurd (h.isDigit '-' List.mem_cons_self) (by decide)
  · exact absurd (h.isDigit '+' List.mem_cons_self) (by decide)
  · rfl

/-- The sign and the digits of a text. -/
theorem denotes_iff : Denotes s n ↔ IsDigits (splitSign s).2 ∧
    n = if (splitSign s).1 then -(number (splitSign s).2 : Int) else number (splitSign s).2 := by
  constructor
  · intro h
    cases h with
    | unsigned hds =>
      rw [splitSign_of_isDigits hds]
      exact ⟨hds, rfl⟩
    | plus hds | minus hds => exact ⟨hds, rfl⟩
  · rintro ⟨hds, rfl⟩
    revert hds
    unfold splitSign
    split
    · exact .minus
    · exact .plus
    · exact .unsigned

instance (ds : List Char) : Decidable (IsDigits ds) := inferInstanceAs (Decidable (_ ∧ _))

instance (s : List Char) (n : Int) : Decidable (Denotes s n) :=
  decidable_of_iff _ denotes_iff.symm

theorem readInt?_of_denotes (h : Denotes s n) : readInt? s = some n := by
  obtain ⟨hds, rfl⟩ := denotes_iff.mp h
  simp only [readInt?, digitsValue_eq_number]
  exact if_pos hds

/-! ## The floating-point number of a text -/

theorem spanDigits_of_isDigits (h : IsDigits ds) : spanDigits ds = (ds, []) := by
  have hall : spanDigits (ds ++ []) = (ds ++ [], []) := by
    rw [spanDigits, List.takeWhile_append_of_pos h.isDigit, List.dropWhile_append_of_pos h.isDigit]
    rfl
  rwa [List.append_nil] at hall

theorem readMagnitude?_of_isDigits (h : IsDigits ds) (negative : Bool) :
    readMagnitude? negative ds = some (Binary64.ofDecimal negative (number ds) 0) := by
  simp [readMagnitude?, spanDigits_of_isDigits h, h.1, readExponent?, digitsValue_eq_number]

theorem toLower_of_isDigit {d : Char} (h : d.isDigit = true) : d.toLower = d := by
  rw [Char.isDigit, Bool.and_eq_true, decide_eq_true_eq, decide_eq_true_eq] at h
  have hletter : ¬ ('A'.val ≤ d.val ∧ d.val ≤ 'Z'.val) := fun hletter =>
    absurd (UInt32.le_trans hletter.1 h.2) (by decide)
  exact dif_neg hletter

/-- Digits are not a name of letters. -/
theorem ofList_map_toLower_ne (h : IsDigits ds) (first : Char) (rest : List Char)
    (hfirst : first.isDigit = false) :
    String.ofList (ds.map Char.toLower) ≠ String.ofList (first :: rest) := by
  intro hname
  have hds : ds.map Char.toLower = first :: rest := String.ofList_injective hname
  obtain ⟨d, ds, rfl, hd, -⟩ := List.map_eq_cons_iff.mp hds
  have hdigit : d.isDigit = true := h.isDigit d List.mem_cons_self
  rw [← hd, toLower_of_isDigit hdigit, hdigit] at hfirst
  cases hfirst

theorem readBinary64?_of_denotes (h : Denotes s n) : ∃ negative N,
    n = (if negative then -(N : Int) else N) ∧
      readBinary64? s = some (Binary64.ofDecimal negative N 0) := by
  obtain ⟨hds, hn⟩ := denotes_iff.mp h
  refine ⟨_, _, hn, ?_⟩
  have hinf := ofList_map_toLower_ne hds 'i' ['n', 'f'] rfl
  have hinfinity := ofList_map_toLower_ne hds 'i' "nfinity".toList rfl
  have hnan := ofList_map_toLower_ne hds 'n' ['a', 'n'] rfl
  rw [readBinary64?]
  dsimp only
  rw [if_neg, if_neg, readMagnitude?_of_isDigits hds]
  · exact hnan
  · exact not_or.mpr ⟨hinf, hinfinity⟩

end Decimal

/-! ## Rounding at the ends of the range -/

namespace Binary64

variable {negative : Bool} {n : Nat}

/-- Scaling a whole number down by a power of two. -/
theorem scaleDown_whole (n k : Nat) : scaleDown n 1 k = (n, 2 ^ k) := by
  have hneg : (-(k : Int)).toNat = 0 := Int.toNat_neg_natCast k
  rw [scaleDown, hneg, Int.toNat_natCast, Nat.pow_zero, Nat.mul_one, Nat.one_mul]

theorem log2Ratio_whole (h : n ≠ 0) : log2Ratio n 1 = n.log2 := by
  have hk : (n.log2 : Int) - (Nat.log2 1 : Nat) = n.log2 := Int.sub_zero _
  simp only [log2Ratio, hk, scaleDown_whole]
  rw [if_pos (Nat.log2_self_le h)]

/-- From `2^52` on, the numbers that there are stand `2^e` apart, and a whole number is rounded
to one of them. -/
theorem ofRatio_whole (h : 2 ^ 52 ≤ n) :
    ofRatio negative n 1 =
      let e := n.log2 - 52
      let m := nearestEven n (2 ^ e)
      if m = 2 ^ 53 then pack negative (2 ^ 52) (e + 1 : Nat) else pack negative m e := by
  have hn : n ≠ 0 := by omega
  have hlog : 52 ≤ n.log2 := (Nat.le_log2 hn).mpr h
  have he : max ((n.log2 : Int) - 52) (-1074) = (n.log2 - 52 : Nat) := by omega
  rw [ofRatio, if_neg hn, log2Ratio_whole hn, he]
  dsimp only
  rw [scaleDown_whole]
  rfl

theorem le_nearestEven (num den : Nat) : num / den ≤ nearestEven num den := by
  unfold nearestEven
  dsimp only
  split
  · exact Nat.le_refl _
  · split
    · exact Nat.le_succ _
    · split
      · exact Nat.le_refl _
      · exact Nat.le_succ _

/-- The rounded number has 53 significant bits. -/
theorem le_nearestEven_log2 (h : 2 ^ 52 ≤ n) : 2 ^ 52 ≤ nearestEven n (2 ^ (n.log2 - 52)) := by
  have hn : n ≠ 0 := by omega
  have hlog : 52 ≤ n.log2 := (Nat.le_log2 hn).mpr h
  have hsum : 52 + (n.log2 - 52) = n.log2 := by omega
  have hquotient : 2 ^ 52 ≤ n / 2 ^ (n.log2 - 52) := by
    rw [Nat.le_div_iff_mul_le (Nat.two_pow_pos _), ← Nat.pow_add, hsum]
    exact Nat.log2_self_le hn
  exact Nat.le_trans hquotient (le_nearestEven n (2 ^ (n.log2 - 52)))

/-- Half a step from `2^63`, and the tie goes to it: its neighbour is odd. -/
theorem nearestEven_eq_iff (h : 2 ^ 63 ≤ n) :
    nearestEven n (2 ^ 11) = 2 ^ 52 ↔ n ≤ 2 ^ 63 + 1024 := by
  unfold nearestEven
  dsimp only
  split
  · omega
  · split
    · omega
    · split <;> omega

/-- Up to half a step beyond `2^63` a whole number is rounded to it. -/
theorem ofRatio_of_near (h : 2 ^ 63 ≤ n) (hnear : n ≤ 2 ^ 63 + 1024) :
    ofRatio negative n 1 = pack negative (2 ^ 52) (11 : Nat) := by
  have hn : n ≠ 0 := by omega
  have hlog : n.log2 = 63 := (Nat.log2_eq_iff hn).mpr ⟨h, by omega⟩
  have hm : nearestEven n (2 ^ (63 - 52)) = 2 ^ 52 := (nearestEven_eq_iff h).mpr hnear
  rw [ofRatio_whole (by omega)]
  dsimp only
  rw [hlog, hm, if_neg (by decide)]

/-- Farther away the number is greater than `2^63`, or not finite. The cases are whether `n` is
below `2^64`, where the numbers stand as far apart as there. -/
theorem ofRatio_of_far (negative : Bool) (hfar : 2 ^ 63 + 1024 < n) :
    ∃ m e : Nat, ofRatio negative n 1 = pack negative m e ∧ 2 ^ 63 < m * 2 ^ e := by
  have hn : n ≠ 0 := by omega
  have hlog : 63 ≤ n.log2 := (Nat.le_log2 hn).mpr (by omega)
  have hm : 2 ^ 52 ≤ nearestEven n (2 ^ (n.log2 - 52)) := le_nearestEven_log2 (by omega)
  rw [ofRatio_whole (by omega)]
  dsimp only
  split
  · have he : 2 ^ 12 ≤ 2 ^ (n.log2 - 52 + 1) := Nat.pow_le_pow_right (by decide) (by omega)
    refine ⟨_, _, rfl, ?_⟩
    omega
  · refine ⟨_, _, rfl, ?_⟩
    rcases Nat.lt_or_eq_of_le hlog with hlarge | hlog
    · have he : 2 ^ 12 ≤ 2 ^ (n.log2 - 52) := Nat.pow_le_pow_right (by decide) (by omega)
      calc 2 ^ 63 < 2 ^ 52 * 2 ^ 12 := by decide
        _ ≤ _ := Nat.mul_le_mul hm he
    · rw [← hlog] at hm ⊢
      have hne : nearestEven n (2 ^ (63 - 52)) ≠ 2 ^ 52 := fun heq =>
        absurd ((nearestEven_eq_iff (by omega)).mp heq) (by omega)
      omega

/-- The value of a packed whole number, if it is finite. -/
theorem toInt?_pack (m e : Nat) {v : Int} (h : (pack negative m e).toInt? = some v) :
    v = if negative then -((m * 2 ^ e : Nat) : Int) else (m * 2 ^ e : Nat) := by
  unfold pack at h
  split at h
  · have hneg : (-(e : Int)).toNat = 0 := Int.toNat_neg_natCast e
    simp only [toInt?, ratio, hneg, Int.toNat_natCast, Nat.pow_zero, Nat.mod_one, Nat.div_one,
      if_true, Option.some.injEq] at h
    exact h.symm
  · cases h

/-- A whole number is rounded, unless it has too many digits to be finite. -/
theorem ofDecimal_whole (h : n ≠ 0) :
    ofDecimal negative n 0 =
      if 400 < (Nat.toDigits 10 n).length then .infinite negative else ofRatio negative n 1 := by
  have hsmall : ¬ (n = 0 ∨ ((Nat.toDigits 10 n).length : Int) + 0 < -400) := by omega
  have hmagnitude : (400 < ((Nat.toDigits 10 n).length : Int) + 0) ↔
      400 < (Nat.toDigits 10 n).length := by omega
  have hdigits : n * 10 ^ Int.toNat 0 = n := Nat.mul_one n
  simp only [ofDecimal, if_neg hsmall, hmagnitude, hdigits]
  rfl

end Binary64

namespace Value

variable {negative : Bool} {n : Nat}

theorem wholeToInteger?_of_near (h : 2 ^ 63 ≤ n) (hnear : n ≤ 2 ^ 63 + 1024) :
    wholeToInteger? (Binary64.ofDecimal negative n 0) =
      some (if negative then Int64.minValue else Int64.maxValue) := by
  have hdigits : (Nat.toDigits 10 n).length ≤ 20 :=
    (Nat.length_toDigits_le_iff (by decide) (by decide)).mpr (by omega)
  rw [Binary64.ofDecimal_whole (by omega), if_neg (by omega), Binary64.ofRatio_of_near h hnear]
  cases negative <;> decide +kernel

theorem wholeToInteger?_of_far (hfar : 2 ^ 63 + 1024 < n) :
    wholeToInteger? (Binary64.ofDecimal negative n 0) = none := by
  rw [Binary64.ofDecimal_whole (by omega)]
  split
  · rfl
  · obtain ⟨m, e, hround, hvalue⟩ := Binary64.ofRatio_of_far negative hfar
    rw [hround, wholeToInteger?, Option.bind_eq_none_iff]
    intro v hv
    have hv := Binary64.toInt?_pack m e hv
    have hrange : v ≠ 2 ^ 63 ∧ ¬ (-2 ^ 63 ≤ v ∧ v < 2 ^ 63) := by
      cases negative
      · rw [if_neg (by decide)] at hv
        omega
      · rw [if_pos rfl] at hv
        omega
    rw [if_neg hrange.1, int64?, if_neg hrange.2]

/-! ## Coercing a text -/

variable {s : List Char} {k : Int}

/-- A number of the range is read digit by digit. -/
theorem integerOfText?_of_range (h : Decimal.Denotes s k) (hk : -2 ^ 63 ≤ k ∧ k < 2 ^ 63) :
    integerOfText? s = some (Int64.ofInt k) := by
  have hread : (Decimal.readInt? s).bind int64? = some (Int64.ofInt k) := by
    rw [Decimal.readInt?_of_denotes h, Option.bind_some, int64?, if_pos hk]
  rw [integerOfText?, hread]

/-- A number out of the range is rounded. -/
theorem integerOfText?_of_not_range (h : Decimal.Denotes s k)
    (hk : ¬ (-2 ^ 63 ≤ k ∧ k < 2 ^ 63)) : ∃ negative N,
      k = (if negative then -(N : Int) else N) ∧
        integerOfText? s = wholeToInteger? (Binary64.ofDecimal negative N 0) := by
  obtain ⟨negative, N, hN, hread⟩ := Decimal.readBinary64?_of_denotes h
  have hnone : (Decimal.readInt? s).bind int64? = none := by
    rw [Decimal.readInt?_of_denotes h, Option.bind_some, int64?, if_neg hk]
  refine ⟨negative, N, hN, ?_⟩
  rw [integerOfText?, hnone, hread]
  rfl

/-- What a text of digits is as an integer. -/
theorem integerOfText?_eq (h : Decimal.Denotes s k) : integerOfText? s =
    if -2 ^ 63 ≤ k ∧ k < 2 ^ 63 then some (Int64.ofInt k)
    else if 2 ^ 63 ≤ k ∧ k ≤ 2 ^ 63 + 1024 then some Int64.maxValue
    else if -2 ^ 63 - 1024 ≤ k ∧ k < -2 ^ 63 then some Int64.minValue
    else none := by
  by_cases hrange : -2 ^ 63 ≤ k ∧ k < 2 ^ 63
  · rw [if_pos hrange, integerOfText?_of_range h hrange]
  obtain ⟨negative, N, hN, heq⟩ := integerOfText?_of_not_range h hrange
  rw [if_neg hrange, heq]
  by_cases hnear : N ≤ 2 ^ 63 + 1024
  · cases negative with
    | false =>
      rw [if_neg (by decide)] at hN
      rw [if_pos (by omega)]
      exact wholeToInteger?_of_near (by omega) hnear
    | true =>
      rw [if_pos rfl] at hN
      rw [if_neg (by omega), if_pos (by omega)]
      exact wholeToInteger?_of_near (by omega) hnear
  · rw [wholeToInteger?_of_far (Nat.lt_of_not_le hnear)]
    cases negative with
    | false =>
      rw [if_neg (by decide)] at hN
      rw [if_neg (by omega), if_neg (by omega)]
    | true =>
      rw [if_pos rfl] at hN
      rw [if_neg (by omega), if_neg (by omega)]

theorem coerce_integer_of_text (text : String) : (Value.text text).coerce .integer =
    match integerOfText? (Text.trim text.toList) with
    | some i => .ok (.integer i)
    | none => .error (Fault.ofConversion (.text text) .integer) := by
  rw [coerce, convert?, toInteger?]
  cases integerOfText? (Text.trim text.toList) <;> rfl

end Value

/-- A text of digits, with a sign or without one and with blanks around it or not. In the range
of the integers it becomes the integer that is its number. Out of range it becomes the end of the
range that is nearer, if that is not more than 1024 away, and is refused otherwise. -/
theorem coerce_integer_text {text : String} {n : Int}
    (h : Decimal.Denotes (Text.trim text.toList) n) :
    let outcome := (Value.text text).coerce .integer
    (-2 ^ 63 ≤ n → n < 2 ^ 63 → ∃ i : Int64, i.toInt = n ∧ outcome = .ok (.integer i)) ∧
      (2 ^ 63 ≤ n → n ≤ 2 ^ 63 + 1024 → outcome = .ok (.integer Int64.maxValue)) ∧
      (-2 ^ 63 - 1024 ≤ n → n < -2 ^ 63 → outcome = .ok (.integer Int64.minValue)) ∧
      (n < -2 ^ 63 - 1024 ∨ 2 ^ 63 + 1024 < n →
        outcome = .error (Fault.ofConversion (.text text) .integer)) := by
  intro outcome
  have houtcome := Value.coerce_integer_of_text text
  rw [Value.integerOfText?_eq h] at houtcome
  refine ⟨fun hlow hhigh => ?_, fun hlow hhigh => ?_, fun hlow hhigh => ?_, fun hfar => ?_⟩
  · rw [if_pos ⟨hlow, hhigh⟩] at houtcome
    exact ⟨Int64.ofInt n, Int64.toInt_ofInt_of_le hlow hhigh, houtcome⟩
  · rw [if_neg (by omega), if_pos ⟨hlow, hhigh⟩] at houtcome
    exact houtcome
  · rw [if_neg (by omega), if_neg (by omega), if_pos ⟨hlow, hhigh⟩] at houtcome
    exact houtcome
  · rw [if_neg (by omega), if_neg (by omega), if_neg (by omega)] at houtcome
    exact houtcome

/-- The least integer, the last numbers at both ends that become an integer although they are none,
and the first one that is refused. -/
theorem coerce_integer_text_ends :
    (Value.text " -9223372036854775808\n").coerce .integer = .ok (.integer Int64.minValue) ∧
      (Value.text "-9223372036854776832").coerce .integer = .ok (.integer Int64.minValue) ∧
      (Value.text "+9223372036854776832").coerce .integer = .ok (.integer Int64.maxValue) ∧
      (Value.text "9223372036854776833").coerce .integer =
        .error (.conversion "\"9223372036854776833\"" .integer) := by
  have hleast : Decimal.Denotes (Text.trim " -9223372036854775808\n".toList)
      (-9223372036854775808) := by decide +kernel
  have hbelow : Decimal.Denotes (Text.trim "-9223372036854776832".toList)
      (-9223372036854776832) := by decide +kernel
  have habove : Decimal.Denotes (Text.trim "+9223372036854776832".toList)
      9223372036854776832 := by decide +kernel
  have hfar : Decimal.Denotes (Text.trim "9223372036854776833".toList)
      9223372036854776833 := by decide +kernel
  obtain ⟨i, hi, hinteger⟩ := (coerce_integer_text hleast).1 (by decide) (by decide)
  refine ⟨?_, (coerce_integer_text hbelow).2.2.1 (by decide) (by decide),
    (coerce_integer_text habove).2.1 (by decide) (by decide), ?_⟩
  · have hmin : i = Int64.minValue := Int64.toInt_inj.mp hi
    rw [hinteger, hmin]
  · have hdisplay : (Value.text "9223372036854776833").display = "\"9223372036854776833\"" := by
      decide +kernel
    rw [(coerce_integer_text hfar).2.2.2 (.inr (by decide)), Fault.ofConversion, hdisplay]

/-- The number after the greatest integer is taken for the greatest integer. -/
theorem integer_text_changed :
    let text := "9223372036854775808"
    let n : Int := 9223372036854775808
    Decimal.Denotes (Text.trim text.toList) n ∧ ¬ (-2 ^ 63 ≤ n ∧ n < 2 ^ 63) ∧
      Int64.maxValue.toInt ≠ n ∧
      (Value.text text).coerce .integer = .ok (.integer Int64.maxValue) := by
  intro text n
  have hn : Decimal.Denotes (Text.trim text.toList) n := by decide +kernel
  refine ⟨hn, by decide, by decide, ?_⟩
  have hread : Value.integerOfText? (Text.trim text.toList) = some Int64.maxValue :=
    (Value.integerOfText?_eq hn).trans (by decide)
  rw [Value.coerce_integer_of_text, hread]

end WorkbookQuery
