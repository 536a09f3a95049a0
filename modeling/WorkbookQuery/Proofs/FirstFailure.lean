/-
  Records from rows and failures. A source of rows may fail at any read, a row may have the wrong
  width, and the values of a row may not fit the fields that read them. Records are made all or
  none (`records_or_first_failure`): one for each row when nothing fails, and otherwise the first
  failure is the result, with nothing behind it read. In a row the width comes before the fields,
  and the fields come in the order of their declaration.

  What a field reads and takes is said here without bindings and casts (`Field.value?`,
  `FieldType.Takes`), and `Record.ofRaw_eq_ok` and `Record.ofRaw_eq_error` tie the two together
  for one row.
-/
import WorkbookQuery.Proofs.Casting

namespace WorkbookQuery

/-! ## What a field reads and what it takes -/

def Value.trimmed : Value → Value
  | .text s => .text (Text.trimmed s)
  | v => v

/-- The value of a row under the first header that is the field's column, trimmed when that is
asked for. A field without a column reads nothing. -/
def Field.value? (f : Field) (headers : Headers) (m : ColumnMap) (trim : Bool) (row : RawRow) :
    Option Value :=
  (headers.columns.idxOf? (m.resolve f.name)).map fun i =>
    let v := row[i]?.getD .null
    if trim then v.trimmed else v

/-- A type makes `x` of a value: null only if it is nullable, and anything else if it converts to
the scalar type and fits. -/
def FieldType.Takes (t : FieldType) (v : Value) (x : t.Carrier) : Prop :=
  (v = .null → t.nullable = true) ∧ ∃ w, v.coerce t.scalar = .ok w ∧ t.ofValue? w = some x

/-- What a type takes is what a cell casts to: null casts to nothing that is not nullable. -/
theorem FieldType.takes_iff {t : FieldType} {v : Value} {x : t.Carrier} :
    t.Takes v x ↔ (Cell.mk v).cast t = .ok x := by
  rw [Cell.cast_eq]
  constructor
  · rintro ⟨-, w, hw, hx⟩
    simp only [hw, hx]
  · intro h
    cases hw : v.coerce t.scalar with
    | error e =>
      simp only [hw] at h
      cases h
    | ok w =>
      simp only [hw] at h
      cases hx : t.ofValue? w with
      | none =>
        simp only [hx] at h
        cases h
      | some y =>
        simp only [hx] at h
        cases h
        refine ⟨?_, w, hw, hx⟩
        rintro rfl
        cases hw
        cases hnullable : t.nullable with
        | true => rfl
        | false =>
          rw [FieldType.ofValue?_null hnullable] at hx
          cases hx

section OneRow

variable (headers : Headers) (m : ColumnMap) (trim : Bool) (fields : List Field)

/-- The row has the width of its headers, and every field takes the value that it reads. -/
structure Readable (row : RawRow) : Prop where
  width : row.length = headers.width
  takes : ∀ i : Fin fields.length, ∀ v, (fields.get i).value? headers m trim row = some v →
    ∃ x : (fields.get i).type.Carrier, (fields.get i).type.Takes v x

variable {fields} in
/-- The record holds what its fields make of the values that they read, and a field that reads
nothing is as in the record to start from. -/
structure Record.ReadFrom (record start : Record fields) (row : RawRow) : Prop where
  width : row.length = headers.width
  takes : ∀ i : Fin fields.length, ∀ v, (fields.get i).value? headers m trim row = some v →
    (fields.get i).type.Takes v (record.content i)
  keeps : ∀ i : Fin fields.length, (fields.get i).value? headers m trim row = none →
    record.content i = start.content i

/-- Item number `n` of a source fails, and how: the read itself; or the row has the wrong width;
or a field does not take its value, while all fields declared before it take theirs. -/
inductive Fails (n : Nat) : Except Fault RawRow → Fault → Prop where
  | read {e} : Fails n (.error e) e
  | width {row} : row.length ≠ headers.width →
      Fails n (.ok row) (.execution ("row " ++ toString n ++ " has " ++ toString row.length ++
        " values but the result has " ++ toString headers.width ++ " columns"))
  | field {row v} {i : Fin fields.length} : row.length = headers.width →
      (∀ j < i, ∀ v, (fields.get j).value? headers m trim row = some v →
        ∃ x : (fields.get j).type.Carrier, (fields.get j).type.Takes v x) →
      (fields.get i).value? headers m trim row = some v →
      (¬ ∃ x : (fields.get i).type.Carrier, (fields.get i).type.Takes v x) →
      Fails n (.ok row)
        (.columnMismatch (m.resolve (fields.get i).name) (fields.get i).type.scalar n v.display)

end OneRow

/-! ## Bindings -/

namespace Binding

variable {fields : List Field} {headers : Headers} {m : ColumnMap} {trim : Bool} {row : RawRow}
  {n : Nat}

theorem raw_eq (b : Binding fields) (trim : Bool) (row : RawRow) : b.raw trim row =
    if trim then (row[b.position]?.getD .null).trimmed else row[b.position]?.getD .null := by
  unfold raw
  cases row[b.position]?.getD .null <;> cases trim <;> rfl

/-- A binding reads what its field reads. -/
theorem value?_of_mem_all {b : Binding fields} (hb : b ∈ all fields headers m) :
    (fields.get b.field).value? headers m trim row = some (b.raw trim row) := by
  obtain ⟨hcolumn, hposition⟩ := mem_all.mp hb
  rw [Headers.position?_eq, hcolumn] at hposition
  rw [Field.value?, hposition, raw_eq]
  rfl

/-- Whatever a field reads it reads through a binding. -/
theorem exists_of_value? {i : Fin fields.length} {v : Value}
    (h : (fields.get i).value? headers m trim row = some v) :
    ∃ b ∈ all fields headers m, b.field = i ∧ b.raw trim row = v := by
  obtain ⟨position, hposition, hv⟩ := Option.map_eq_some_iff.mp h
  rw [← Headers.position?_eq] at hposition
  let b : Binding fields := ⟨i, m.resolve (fields.get i).name, position⟩
  exact ⟨b, mem_all.mpr ⟨rfl, hposition⟩, rfl, (raw_eq b trim row).trans hv⟩

/-- Assignments fail at the first value that its field does not take. -/
theorem foldlM_assign_eq_error {bs : List (Binding fields)} {value : Binding fields → Value}
    {r : Record fields} {e : Fault} :
    bs.foldlM (fun r b => b.assign n (value b) r) r = .error e ↔
      ∃ before b after, bs = before ++ b :: after ∧
        (∀ c ∈ before, ∃ x : (fields.get c.field).type.Carrier,
          (Cell.mk (value c)).cast (fields.get c.field).type = .ok x) ∧
        (¬ ∃ x : (fields.get b.field).type.Carrier,
          (Cell.mk (value b)).cast (fields.get b.field).type = .ok x) ∧
        e = b.mismatch n (value b) := by
  constructor
  · intro h
    induction bs generalizing r with
    | nil => cases h
    | cons b bs ih =>
      rw [List.foldlM_cons] at h
      obtain hassign | ⟨r', hassign, h⟩ := bind_eq_error.mp h
      · refine ⟨[], b, bs, rfl, fun _ hc => absurd hc List.not_mem_nil, ?_, ?_⟩
        · rintro ⟨x, hx⟩
          rw [assign_eq_ok.mpr ⟨x, hx, rfl⟩] at hassign
          cases hassign
        · rw [assign_eq] at hassign
          split at hassign <;> cases hassign
          rfl
      · obtain ⟨before, c, after, rfl, hbefore, hc, he⟩ := ih h
        obtain ⟨x, hx, -⟩ := assign_eq_ok.mp hassign
        exact ⟨b :: before, c, after, rfl, List.forall_mem_cons.mpr ⟨⟨x, hx⟩, hbefore⟩, hc, he⟩
  · rintro ⟨before, b, after, rfl, hbefore, hb, rfl⟩
    obtain ⟨r', hr'⟩ := foldlM_assign_isOk (n := n) hbefore r
    rw [List.foldlM_append, hr', ok_bind, List.foldlM_cons, assign_eq]
    split
    · next x hx => exact absurd ⟨x, hx⟩ hb
    · rfl

end Binding

/-! ## One row -/

namespace Record

variable {fields : List Field} {headers : Headers} {m : ColumnMap} {trim : Bool} {row : RawRow}
  {n : Nat} {start record other : Record fields}

theorem eq_of_content (h : ∀ i, record.content i = other.content i) : record = other := by
  induction fields with
  | nil => rfl
  | cons f fields ih =>
    have hfirst : record.1 = other.1 := h ⟨0, Nat.zero_lt_succ _⟩
    have hrest : record.2 = other.2 := ih fun i => h i.succ
    exact Prod.ext hfirst hrest

/-- Only one record is read from a row. -/
theorem ReadFrom.unique (h : record.ReadFrom headers m trim start row)
    (h' : other.ReadFrom headers m trim start row) : record = other := by
  apply eq_of_content
  intro i
  cases hv : (fields.get i).value? headers m trim row with
  | none => rw [h.keeps i hv, h'.keeps i hv]
  | some v =>
    have hx := FieldType.takes_iff.mp (h.takes i v hv)
    have hy := FieldType.takes_iff.mp (h'.takes i v hv)
    exact Except.ok.inj (hx.symm.trans hy)

theorem readFrom_of_ofRaw
    (h : ofRaw headers (Binding.all fields headers m) start trim n row = .ok record) :
    record.ReadFrom headers m trim start row := by
  obtain ⟨_, hcheck, -⟩ := bind_eq_ok.mp h
  have hwidth := width_of_checkWidth hcheck
  rw [ofRaw_eq hwidth] at h
  obtain ⟨hbound, hkept⟩ := Binding.content_of_foldlM Binding.pairwise_all h
  refine ⟨hwidth, fun i v hv => ?_, fun i hv => ?_⟩
  · obtain ⟨b, hb, rfl, rfl⟩ := Binding.exists_of_value? hv
    exact FieldType.takes_iff.mpr (hbound b hb)
  · apply hkept i
    rintro b hb rfl
    rw [Binding.value?_of_mem_all hb] at hv
    cases hv

/-- A row that can be read is made into a record. -/
theorem ofRaw_isOk (h : Readable headers m trim fields row) (start : Record fields) (n : Nat) :
    ∃ record, ofRaw headers (Binding.all fields headers m) start trim n row = .ok record := by
  rw [ofRaw_eq h.width]
  apply Binding.foldlM_assign_isOk
  intro b hb
  obtain ⟨x, hx⟩ := h.takes b.field _ (Binding.value?_of_mem_all hb)
  exact ⟨x, FieldType.takes_iff.mp hx⟩

theorem ReadFrom.readable (h : record.ReadFrom headers m trim start row) :
    Readable headers m trim fields row :=
  ⟨h.width, fun i v hv => ⟨_, h.takes i v hv⟩⟩

/-- What is made of a row is the record that is read from it, whatever the row's number is. -/
theorem ofRaw_eq_ok :
    ofRaw headers (Binding.all fields headers m) start trim n row = .ok record ↔
      record.ReadFrom headers m trim start row := by
  constructor
  · exact readFrom_of_ofRaw
  · intro h
    obtain ⟨other, hother⟩ := ofRaw_isOk h.readable start n
    rw [hother, h.unique (readFrom_of_ofRaw hother)]

/-- A record can be read from an item that is a row, when the row can be read. -/
theorem exists_readFrom_iff {item : Except Fault RawRow} :
    (∃ (record : Record fields) (row : RawRow),
      item = .ok row ∧ record.ReadFrom headers m trim start row) ↔
    ∃ row, item = .ok row ∧ Readable headers m trim fields row := by
  constructor
  · rintro ⟨record, row, hrow, h⟩
    exact ⟨row, hrow, h.readable⟩
  · rintro ⟨row, hrow, h⟩
    obtain ⟨record, hrecord⟩ := ofRaw_isOk h start 1
    exact ⟨record, row, hrow, readFrom_of_ofRaw hrecord⟩

/-- The bindings before one binding are those of the fields declared before its field. -/
theorem fails_iff_of_width (hwidth : row.length = headers.width) {e : Fault} :
    Fails headers m trim fields n (.ok row) e ↔
      ∃ before b after, Binding.all fields headers m = before ++ b :: after ∧
        (∀ c ∈ before, ∃ x : (fields.get c.field).type.Carrier,
          (Cell.mk (c.raw trim row)).cast (fields.get c.field).type = .ok x) ∧
        (¬ ∃ x : (fields.get b.field).type.Carrier,
          (Cell.mk (b.raw trim row)).cast (fields.get b.field).type = .ok x) ∧
        e = b.mismatch n (b.raw trim row) := by
  have hordered : (Binding.all fields headers m).Pairwise fun b c => b.field < c.field :=
    Binding.ordered_all
  simp only [← FieldType.takes_iff]
  constructor
  · intro h
    cases h with
    | width hne => exact absurd hwidth hne
    | @field _ v i _ hearlier hv hnot =>
      obtain ⟨b, hb, rfl, rfl⟩ := Binding.exists_of_value? hv
      obtain ⟨before, after, hall⟩ := List.append_of_mem hb
      rw [hall, List.pairwise_append] at hordered
      refine ⟨before, b, after, hall, fun c hc => ?_, hnot, ?_⟩
      · have hc' : c ∈ Binding.all fields headers m := hall ▸ List.mem_append_left _ hc
        exact hearlier c.field (hordered.2.2 c hc b List.mem_cons_self) _
          (Binding.value?_of_mem_all hc')
      · rw [Binding.mismatch, (Binding.mem_all.mp hb).1]
        rfl
  · rintro ⟨before, b, after, hall, hbefore, hnot, rfl⟩
    have hb : b ∈ Binding.all fields headers m :=
      hall ▸ List.mem_append_right _ List.mem_cons_self
    rw [Binding.mismatch, (Binding.mem_all.mp hb).1]
    refine .field hwidth (fun j hj v hv => ?_) (Binding.value?_of_mem_all hb) hnot
    obtain ⟨c, hc, rfl, rfl⟩ := Binding.exists_of_value? hv
    apply hbefore c
    rw [hall, List.pairwise_append, List.pairwise_cons] at hordered
    rw [hall] at hc
    rcases List.mem_append.mp hc with hc | hc
    · exact hc
    rcases List.mem_cons.mp hc with rfl | hc
    · exact absurd hj (Nat.lt_irrefl _)
    · exact absurd (hordered.2.1.1 c hc) (Nat.lt_asymm hj)

theorem ofRaw_eq_error {e : Fault} :
    ofRaw headers (Binding.all fields headers m) start trim n row = .error e ↔
      Fails headers m trim fields n (.ok row) e := by
  by_cases hwidth : row.length = headers.width
  · rw [ofRaw_eq hwidth, Binding.foldlM_assign_eq_error, fails_iff_of_width hwidth]
  · rw [ofRaw, checkWidth, if_neg hwidth]
    constructor
    · rintro ⟨⟩
      exact .width hwidth
    · rintro (_ | _ | ⟨hw, -⟩)
      · rfl
      · exact absurd hw hwidth

end Record

/-- An item fails as its read does, or as a record is not made of its row, whatever record is
started from. -/
theorem fails_iff {fields : List Field} {headers : Headers} {m : ColumnMap} {trim : Bool}
    {n : Nat} {item : Except Fault RawRow} {e : Fault} (start : Record fields) :
    Fails headers m trim fields n item e ↔ item = .error e ∨ ∃ row, item = .ok row ∧
      Record.ofRaw headers (Binding.all fields headers m) start trim n row = .error e := by
  simp only [Record.ofRaw_eq_error]
  constructor
  · intro h
    cases item with
    | error e' =>
      cases h
      exact .inl rfl
    | ok row => exact .inr ⟨row, rfl, h⟩
  · rintro (rfl | ⟨row, rfl, h⟩)
    · exact .read
    · exact h

/-! ## Sources that are lists -/

namespace RowSource

/-- The first failure in a list, by induction on the list. What comes after it is left. -/
theorem collect_list_eq_error {α : Type} {make : Nat → RawRow → Except Fault α}
    {items rest : List (Except Fault RawRow)} {n : Nat} {e : Fault} :
    collect make n items = .error e rest ↔
      ∃ before item, items = before ++ item :: rest ∧
        (∀ p ∈ before.zipIdx n, ∃ a row, p.1 = .ok row ∧ make p.2 row = .ok a) ∧
        (item = .error e ∨ ∃ row, item = .ok row ∧ make (n + before.length) row = .error e) := by
  constructor
  · intro h
    induction items generalizing n with
    | nil =>
      rw [collect_of_end rfl] at h
      cases h
    | cons item items ih =>
      cases item with
      | error e' =>
        rw [collect_of_error rfl] at h
        cases h
        exact ⟨[], _, rfl, nofun, .inl rfl⟩
      | ok row =>
        cases hrow : make n row with
        | error e' =>
          rw [collect_of_make_error rfl hrow] at h
          cases h
          exact ⟨[], _, rfl, nofun, .inr ⟨row, rfl, hrow⟩⟩
        | ok a =>
          rw [collect_of_row rfl hrow, prepend_eq_error] at h
          obtain ⟨before, item, rfl, hbefore, hitem⟩ := ih h
          refine ⟨.ok row :: before, item, rfl, ?_, ?_⟩
          · exact List.forall_mem_cons.mpr ⟨⟨a, row, rfl, hrow⟩, hbefore⟩
          · rwa [List.length_cons, Nat.add_comm before.length, ← Nat.add_assoc]
  · rintro ⟨before, item, rfl, hbefore, hitem⟩
    induction before generalizing n with
    | nil =>
      rcases hitem with rfl | ⟨row, rfl, hrow⟩
      · exact collect_of_error rfl
      · exact collect_of_make_error rfl hrow
    | cons earlier before ih =>
      obtain ⟨⟨a, row, rfl, hrow⟩, hrest⟩ := List.forall_mem_cons.mp hbefore
      rw [List.length_cons, Nat.add_comm before.length, ← Nat.add_assoc] at hitem
      rw [List.cons_append, collect_of_row rfl hrow, ih hrest hitem, prepend]

end RowSource

/-- Records of a list of rows and failures. There are records exactly when no item is a failure
and every row can be read, and then they are one for each row, in the order of the rows, and
nothing is left of the list; a field that is not read is as in the default of the record type.
Otherwise the result is how the first item fails that does, with its number in the list, and
what comes after that item is left unread. -/
theorem records_or_first_failure (shape : RecordShape) (headers : Headers) (m : ColumnMap)
    (trim : Bool) (items : List (Except Fault RawRow)) :
    let run := materialize (.records shape) headers m trim items
    ((∃ records rest, run = .ok records rest) ↔
      ∀ item ∈ items, ∃ row, item = .ok row ∧ Readable headers m trim shape.fields row) ∧
    (∀ records rest, run = .ok records rest ↔
      rest = [] ∧ List.Forall₂
        (fun (record : Record shape.fields) item =>
          ∃ row, item = .ok row ∧ record.ReadFrom headers m trim shape.default row)
        records items) ∧
    ∀ fault rest, run = .error fault rest ↔
      ∃ before item, items = before ++ item :: rest ∧
        (∀ earlier ∈ before, ∃ row, earlier = .ok row ∧
          Readable headers m trim shape.fields row) ∧
        Fails headers m trim shape.fields (before.length + 1) item fault := by
  intro run
  have hsuccess : ∀ records rest, run = .ok records rest ↔
      rest = [] ∧ List.Forall₂ (fun (record : Record shape.fields) item =>
        ∃ row, item = .ok row ∧ record.ReadFrom headers m trim shape.default row)
          records items := by
    intro records rest
    apply RowSource.collect_list_eq_ok.trans
    conv => rhs; rw [← List.zipIdx_map_fst 1 items, List.forall₂_map_right_iff]
    simp only [Target.make, Record.ofRaw_eq_ok]
  refine ⟨?_, hsuccess, fun fault rest => RowSource.collect_list_eq_error.trans ?_⟩
  · simp only [hsuccess, exists_eq_left, exists_forall₂_iff, Record.exists_readFrom_iff]
  · have hbefore : ∀ before : List (Except Fault RawRow),
        (∀ p ∈ before.zipIdx 1, ∃ (record : Record shape.fields) (row : RawRow),
          p.1 = .ok row ∧ record.ReadFrom headers m trim shape.default row) ↔
        ∀ earlier ∈ before, ∃ row, earlier = .ok row ∧
          Readable headers m trim shape.fields row := by
      intro before
      conv => rhs; rw [← List.zipIdx_map_fst 1 before, List.forall_mem_map]
      simp only [Record.exists_readFrom_iff]
    simp only [Target.make, Record.ofRaw_eq_ok, hbefore, fails_iff shape.default, Nat.add_comm 1]

end WorkbookQuery
