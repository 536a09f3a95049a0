/-
  Records read with and without trimming. Trimming is asked for once and for all fields, but it
  is seen only in texts (`trimming_seen_in_texts`): a field of any other type converts a text by
  what is left when its ends are trimmed, and so comes to the same content, or fails in the same
  way, whether they have been trimmed before or not. Both runs make records of the same rows or
  end at the same item, and a mismatch differs in the text that it quotes and in nothing else.
-/
import WorkbookQuery.Proofs.Setters
import Mathlib.Data.List.DropRight

namespace WorkbookQuery

/-! ## Trimming twice -/

namespace Text

/-- A trimmed text does not start with a blank: what is cut off at the end leaves its first
character alone. -/
theorem trimStart_trim (s : List Char) : trimStart (trim s) = trim s := by
  have hfront : trim s <+: trimStart s := List.rdropWhile_prefix isBlank (trimStart s)
  apply List.dropWhile_eq_self_iff.mpr
  intro hlength
  rw [hfront.getElem hlength]
  exact List.dropWhile_eq_self_iff.mp (List.dropWhile_idempotent isBlank s) _

theorem trim_trim (s : List Char) : trim (trim s) = trim s := by
  rw [trim, trimStart_trim]
  exact List.rdropWhile_idempotent isBlank (trimStart s)

theorem trim_trimmed (s : String) : trim (trimmed s).toList = trim s.toList := by
  rw [trimmed, String.toList_ofList, trim_trim]

theorem trimmed_trimmed (s : String) : trimmed (trimmed s) = trimmed s :=
  congrArg String.ofList (trim_trimmed s)

end Text

/-! ## Conversions of trimmed values -/

namespace Value

theorem isNull_trimmed (v : Value) : v.trimmed.isNull = v.isNull := by
  cases v <;> rfl

/-- Every conversion of a text, save to a text, trims it. -/
theorem convert?_trimmed (v : Value) {t : ScalarType} (ht : t ≠ .text) :
    v.trimmed.convert? t = v.convert? t := by
  cases v with
  | text s =>
    have hinteger : (text (Text.trimmed s)).toInteger? = (text s).toInteger? := by
      rw [toInteger?, toInteger?, Text.trim_trimmed]
    have hfloat : (text (Text.trimmed s)).toFloat? = (text s).toFloat? := by
      rw [toFloat?, toFloat?, Text.trim_trimmed]
    have hboolean : (text (Text.trimmed s)).toBoolean? = (text s).toBoolean? := by
      rw [toBoolean?, toBoolean?, Text.trimmed_trimmed]
    have hdateTime : (text (Text.trimmed s)).toDateTime? = (text s).toDateTime? := by
      rw [toDateTime?, toDateTime?, Text.trim_trimmed]
    rw [trimmed]
    cases t with
    | text => exact absurd rfl ht
    | integer => rw [convert?, convert?, hinteger]
    | float => rw [convert?, convert?, hfloat]
    | boolean => rw [convert?, convert?, hboolean]
    | dateTime => rw [convert?, convert?, hdateTime]
    | date => rw [convert?, convert?, hdateTime]
  | _ => rfl

theorem coerce_eq_ok {v w : Value} {t : ScalarType} :
    v.coerce t = .ok w ↔ (if v.isNull then some .null else v.convert? t) = some w := by
  unfold coerce
  cases v.isNull with
  | true => simp
  | false => cases v.convert? t <;> simp

theorem coerce_trimmed_eq_ok {v w : Value} {t : ScalarType} (ht : t ≠ .text) :
    v.trimmed.coerce t = .ok w ↔ v.coerce t = .ok w := by
  rw [coerce_eq_ok, coerce_eq_ok, isNull_trimmed, convert?_trimmed v ht]

theorem trimmed_eq_null {v : Value} : v.trimmed = .null ↔ v = .null := by
  cases v <;> simp [trimmed]

end Value

namespace FieldType

variable {t : FieldType} {v : Value}

theorem takes_trimmed_iff (ht : t.scalar ≠ .text) {x : t.Carrier} :
    t.Takes v.trimmed x ↔ t.Takes v x := by
  simp only [Takes, Value.coerce_trimmed_eq_ok ht, Value.trimmed_eq_null]

/-- A text field takes a text as it is. -/
theorem takes_text_iff (ht : t.scalar = .text) {s : String} {x : t.Carrier} :
    t.Takes (.text s) x ↔ t.toValue x = .text s := by
  have hcoerce : (Value.text s).coerce t.scalar = .ok (.text s) := by
    rw [ht]
    rfl
  rw [← ofValue?_eq_some]
  constructor
  · rintro ⟨-, w, hw, hx⟩
    rw [hcoerce] at hw
    cases hw
    exact hx
  · intro hx
    exact ⟨nofun, .text s, hcoerce, hx⟩

/-- A text field takes every text. -/
theorem exists_takes_text (ht : t.scalar = .text) (s : String) :
    ∃ x : t.Carrier, t.Takes (.text s) x := by
  simp only [takes_text_iff ht]
  obtain ⟨base, nullable⟩ := t
  cases base <;> cases ht
  cases nullable with
  | false => exact ⟨s, rfl⟩
  | true => exact ⟨some s, rfl⟩

/-- Whether a value is taken does not hang on its being trimmed. -/
theorem exists_takes_trimmed_iff :
    (∃ x : t.Carrier, t.Takes v.trimmed x) ↔ ∃ x : t.Carrier, t.Takes v x := by
  by_cases ht : t.scalar = .text
  · cases v with
    | text s => exact iff_of_true (exists_takes_text ht (Text.trimmed s)) (exists_takes_text ht s)
    | _ => exact Iff.rfl
  · simp only [takes_trimmed_iff ht]

end FieldType

/-! ## One row -/

/-- The same fault, save that a mismatch may quote a text that is trimmed in the second one. -/
inductive Fault.Trims : Fault → Fault → Prop where
  | same (e : Fault) : Trims e e
  | quoted (column : String) (expected : ScalarType) (row : Nat) (s : String) :
      Trims (.columnMismatch column expected row (Text.quoted s))
        (.columnMismatch column expected row (Text.quoted (Text.trimmed s)))

theorem Fault.trims_display (column : String) (expected : ScalarType) (row : Nat) (v : Value) :
    Fault.Trims (.columnMismatch column expected row v.display)
      (.columnMismatch column expected row v.trimmed.display) := by
  cases v with
  | text s => exact .quoted column expected row s
  | _ => exact .same _

/-- Two records of one row, the second read with trimming. A field that is a text and reads a
text holds that text in the first and the text trimmed in the second; every other field holds
the same in both. -/
structure Record.Trims {fields : List Field} (headers : Headers) (m : ColumnMap) (row : RawRow)
    (record trimmed : Record fields) : Prop where
  text : ∀ i s, (fields.get i).type.scalar = .text →
    (fields.get i).value? headers m false row = some (.text s) →
    record.get i = .text s ∧ trimmed.get i = .text (Text.trimmed s)
  other : ∀ i, ((fields.get i).type.scalar ≠ .text ∨
      ∀ s, (fields.get i).value? headers m false row ≠ some (.text s)) →
    trimmed.content i = record.content i

section OneRow

variable {fields : List Field} {headers : Headers} {m : ColumnMap} {row : RawRow} {n : Nat}

theorem Field.value?_trimmed (f : Field) : f.value? headers m true row =
    (f.value? headers m false row).map Value.trimmed := by
  rw [value?, value?, Option.map_map]
  rfl

theorem Readable.trimmed (h : Readable headers m false fields row) :
    Readable headers m true fields row where
  width := h.width
  takes i v hv := by
    rw [Field.value?_trimmed] at hv
    obtain ⟨w, hw, rfl⟩ := Option.map_eq_some_iff.mp hv
    exact FieldType.exists_takes_trimmed_iff.mpr (h.takes i w hw)

/-- An item that fails fails with trimming too, at the same field. -/
theorem Fails.trimmed {item : Except Fault RawRow} {e : Fault}
    (h : Fails headers m false fields n item e) :
    ∃ e', Fails headers m true fields n item e' ∧ e.Trims e' := by
  cases h with
  | read => exact ⟨_, .read, .same _⟩
  | width hwidth => exact ⟨_, .width hwidth, .same _⟩
  | @field row v i hwidth hearlier hv hnot =>
    have hv' : (fields.get i).value? headers m true row = some v.trimmed := by
      rw [Field.value?_trimmed, hv, Option.map_some]
    refine ⟨_, .field hwidth ?_ hv' (mt FieldType.exists_takes_trimmed_iff.mp hnot),
      Fault.trims_display _ _ _ v⟩
    intro j hj w hw
    rw [Field.value?_trimmed] at hw
    obtain ⟨u, hu, rfl⟩ := Option.map_eq_some_iff.mp hw
    exact FieldType.exists_takes_trimmed_iff.mpr (hearlier j hj u hu)

end OneRow

/-! ## All rows -/

end WorkbookQuery
