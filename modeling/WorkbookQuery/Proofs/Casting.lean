/-
  Records against rows. A record and a row without a type are made of the same raw row in two
  ways: a record by assigning one bound field after the other, a cell when it is asked for. The
  two agree (`records_agree_with_rows`): records are made exactly when every cell under a bound
  column casts to the type of its field, and then each field holds that cast, whatever the
  types, the headers and the columns that several fields share.
-/
import WorkbookQuery.Proofs.Execution
import Mathlib.Data.List.Forall2

namespace WorkbookQuery

/-! ## The contents of a record -/

namespace Record

/-- What a field holds. -/
def content : {fs : List Field} → Record fs → (i : Fin fs.length) → (fs.get i).type.Carrier
  | _ :: _, (x, _), ⟨0, _⟩ => x
  | _ :: fs, (_, r), ⟨i + 1, h⟩ => @content fs r ⟨i, Nat.lt_of_succ_lt_succ h⟩

/-- The record with another content in one field. -/
def put : {fs : List Field} → Record fs → (i : Fin fs.length) → (fs.get i).type.Carrier →
    Record fs
  | _ :: _, (_, r), ⟨0, _⟩, x => (x, r)
  | _ :: fs, (y, r), ⟨i + 1, h⟩, x => (y, @put fs r ⟨i, Nat.lt_of_succ_lt_succ h⟩ x)

variable {fs : List Field}

/-- Reading a field shows its content. -/
theorem get_eq_toValue (r : Record fs) (i : Fin fs.length) :
    r.get i = (fs.get i).type.toValue (r.content i) := by
  induction fs with
  | nil => exact i.elim0
  | cons f fs ih =>
    obtain ⟨i, h⟩ := i
    cases i with
    | zero => rfl
    | succ i => exact ih r.2 ⟨i, Nat.lt_of_succ_lt_succ h⟩

/-- A field takes a value when its type does. -/
theorem set?_eq_map_put (r : Record fs) (i : Fin fs.length) (v : Value) :
    r.set? i v = ((fs.get i).type.ofValue? v).map (r.put i) := by
  induction fs with
  | nil => exact i.elim0
  | cons f fs ih =>
    obtain ⟨i, h⟩ := i
    cases i with
    | zero => rfl
    | succ i =>
      rw [set?, ih r.2 ⟨i, Nat.lt_of_succ_lt_succ h⟩, Option.map_map]
      rfl

theorem content_put_self (r : Record fs) (i : Fin fs.length) (x : (fs.get i).type.Carrier) :
    (r.put i x).content i = x := by
  induction fs with
  | nil => exact i.elim0
  | cons f fs ih =>
    obtain ⟨i, h⟩ := i
    cases i with
    | zero => rfl
    | succ i => exact ih r.2 ⟨i, Nat.lt_of_succ_lt_succ h⟩ x

theorem content_put_of_ne (r : Record fs) {i j : Fin fs.length} (x : (fs.get i).type.Carrier)
    (hij : i ≠ j) : (r.put i x).content j = r.content j := by
  induction fs with
  | nil => exact i.elim0
  | cons f fs ih =>
    obtain ⟨i, hi⟩ := i
    obtain ⟨j, hj⟩ := j
    cases i with
    | zero =>
      cases j with
      | zero => exact absurd rfl hij
      | succ j => rfl
    | succ i =>
      cases j with
      | zero => rfl
      | succ j =>
        apply ih r.2 (i := ⟨i, Nat.lt_of_succ_lt_succ hi⟩) (j := ⟨j, Nat.lt_of_succ_lt_succ hj⟩)
        intro h
        exact hij (Fin.ext (congrArg (· + 1) (Fin.mk.inj h)))

end Record

/-! ## Headers -/

namespace HeaderIndex

theorem position?_enter (index : HeaderIndex) (name other : String) (position : Nat) :
    (index.enter name position).position? other =
      if other = name then some ((index.position? name).getD position)
      else index.position? other := by
  unfold enter
  split
  · next p hp =>
    split
    · next h =>
      rw [h, hp]
      rfl
    · rfl
  · next hp =>
    unfold position? at *
    rw [List.lookup_cons, hp]
    by_cases h : other = name
    · simp [h]
    · have hne : (other == name) = false := beq_eq_false_iff_ne.mpr h
      rw [hne, if_neg h]

/-- Names that are there already keep their positions; of the others the first counts. -/
theorem position?_enterAll (index : HeaderIndex) (n : Nat) (names : List String)
    (name : String) : (index.enterAll n names).position? name =
      (index.position? name).or ((names.idxOf? name).map (n + ·)) := by
  induction names generalizing index n with
  | nil => simp [enterAll]
  | cons first rest ih =>
    rw [enterAll, ih, position?_enter]
    by_cases h : name = first
    · subst h
      cases index.position? name <;> simp [List.idxOf?_cons]
    · have hne : (first == name) = false := beq_eq_false_iff_ne.mpr (Ne.symm h)
      rw [if_neg h, List.idxOf?_cons, hne]
      cases index.position? name with
      | some p => rfl
      | none =>
        cases rest.idxOf? name <;> simp
        omega

end HeaderIndex

/-- A name stands for the first column that bears it. -/
theorem Headers.position?_eq (h : Headers) (name : String) :
    h.position? name = h.columns.idxOf? name := by
  rw [position?, index, HeaderIndex.position?_enterAll]
  simp [HeaderIndex.position?]

theorem Headers.mem_columns_iff {h : Headers} {name : String} :
    name ∈ h.columns ↔ ∃ position, h.position? name = some position := by
  rw [← Option.isSome_iff_exists, h.position?_eq, List.isSome_idxOf?]

/-! ## Cells -/

/-- The cell under a header as a field of the given type would hold it. -/
def Row.cast (row : Row) (column : String) (t : FieldType) : Except Fault t.Carrier := do
  (← row.cell column).cast t

/-- The row whose cells are the raw values. -/
def Row.under (headers : Headers) (row : RawRow) : Row := ⟨row.map Cell.mk, headers.index⟩

/-- A row of the width of its headers has a cell under each of them. -/
theorem Row.cast_under {headers : Headers} {row : RawRow} (hwidth : row.length = headers.width)
    {column : String} {position : Nat} (h : headers.position? column = some position)
    (t : FieldType) : (Row.under headers row).cast column t =
      (Cell.mk (row[position]?.getD .null)).cast t := by
  have hfound : headers.columns.idxOf? column = some position := by
    rw [← headers.position?_eq, h]
  have hlt : position < row.length := by
    rw [hwidth]
    exact (List.idxOf?_eq_some_iff.mp hfound).1
  have hcell : (Row.under headers row).cell column = .ok ⟨row[position]⟩ := by
    have hindex : headers.index.position? column = some position := h
    simp [cell, under, hindex, hlt]
  rw [cast, hcell, List.getElem?_eq_getElem hlt]
  rfl

/-- Only a nullable type takes null. -/
theorem FieldType.ofValue?_null {t : FieldType} (h : t.nullable = false) :
    t.ofValue? .null = none := by
  obtain ⟨base, nullable⟩ := t
  cases h
  cases base <;> rfl

theorem Cell.cast_eq (c : Cell) (t : FieldType) : c.cast t =
    match c.value.coerce t.scalar with
    | .error e => .error e
    | .ok w => match t.ofValue? w with
      | some x => .ok x
      | none => .error (Fault.ofConversion c.value t.scalar) := by
  unfold cast
  cases c.value.coerce t.scalar with
  | error e => rfl
  | ok w =>
    simp only [bind, Except.bind]
    cases t.ofValue? w <;> rfl

/-! ## Assignments -/

namespace Binding

variable {fields : List Field} {headers : Headers} {m : ColumnMap} {row : RawRow} {n : Nat}

/-- What a cell of the column's value would be as the field's content. -/
def cast (b : Binding fields) (row : RawRow) : Except Fault (fields.get b.field).type.Carrier :=
  (Cell.mk (b.raw false row)).cast (fields.get b.field).type

theorem raw_untrimmed (b : Binding fields) (row : RawRow) :
    b.raw false row = row[b.position]?.getD .null := by
  unfold raw
  split
  · next h => exact h.symm
  · rfl

/-- An assignment puts the cast of the value into the field. Its own check for null forbids
nothing that the cast does not, and what the cast cannot do is a mismatch of the column. -/
theorem assign_eq (b : Binding fields) (v : Value) (r : Record fields) :
    b.assign n v r = match (Cell.mk v).cast (fields.get b.field).type with
      | .ok x => .ok (r.put b.field x)
      | .error _ => .error (b.mismatch n v) := by
  simp only [assign, Cell.cast_eq, Record.set?_eq_map_put]
  split
  · next hnull =>
    obtain ⟨hv, hnullable⟩ := (Bool.and_eq_true _ _).mp hnull
    have hcoerce : v.coerce (fields.get b.field).type.scalar = .ok .null := by
      rw [Value.coerce, if_pos hv]
    have hnone : (fields.get b.field).type.ofValue? .null = none :=
      FieldType.ofValue?_null ((Bool.not_eq_true' _).mp hnullable)
    simp only [hcoerce, hnone]
  · cases v.coerce (fields.get b.field).type.scalar with
    | error e => rfl
    | ok w => cases h : (fields.get b.field).type.ofValue? w <;> simp only [h, Option.map]

theorem assign_eq_ok {b : Binding fields} {v : Value} {r r' : Record fields} :
    b.assign n v r = .ok r' ↔
      ∃ x, (Cell.mk v).cast (fields.get b.field).type = .ok x ∧ r.put b.field x = r' := by
  rw [assign_eq]
  cases (Cell.mk v).cast (fields.get b.field).type <;> simp

/-- A binding for every field whose column is among the headers. -/
theorem mem_all {b : Binding fields} : b ∈ all fields headers m ↔
    b.column = m.resolve (fields.get b.field).name ∧
      headers.position? b.column = some b.position := by
  rw [all, List.mem_filterMap]
  constructor
  · rintro ⟨i, -, h⟩
    obtain ⟨position, hposition, rfl⟩ := Option.map_eq_some_iff.mp h
    exact ⟨rfl, hposition⟩
  · rintro ⟨hcolumn, hposition⟩
    refine ⟨b.field, List.mem_finRange _, ?_⟩
    rw [List.get_eq_getElem] at hcolumn
    simp only [Fin.getElem_fin, ← hcolumn, hposition]
    rfl

theorem column_mem_of_mem_all {b : Binding fields} (hb : b ∈ all fields headers m) :
    m.resolve (fields.get b.field).name ∈ headers.columns := by
  obtain ⟨hcolumn, hposition⟩ := mem_all.mp hb
  rw [← hcolumn]
  exact Headers.mem_columns_iff.mpr ⟨_, hposition⟩

/-- Fields are bound in the order of their declaration. -/
theorem ordered_all : (all fields headers m).Pairwise fun a b => a.field < b.field := by
  rw [all, List.pairwise_filterMap]
  apply (List.pairwise_lt_finRange fields.length).imp
  intro i j hij b hb c hc
  obtain ⟨_, -, rfl⟩ := Option.map_eq_some_iff.mp hb
  obtain ⟨_, -, rfl⟩ := Option.map_eq_some_iff.mp hc
  exact hij

/-- No field is bound twice, though a column may be. -/
theorem pairwise_all : (all fields headers m).Pairwise fun a b => a.field ≠ b.field :=
  ordered_all.imp Fin.ne_of_lt

section Assignments

variable {bs : List (Binding fields)} {value : Binding fields → Value}

theorem foldlM_assign_isOk
    (hcast : ∀ b ∈ bs, ∃ x : (fields.get b.field).type.Carrier,
      (Cell.mk (value b)).cast (fields.get b.field).type = .ok x) (r : Record fields) :
    ∃ r', bs.foldlM (fun r b => b.assign n (value b) r) r = .ok r' := by
  induction bs generalizing r with
  | nil => exact ⟨r, rfl⟩
  | cons b bs ih =>
    obtain ⟨x, hx⟩ := hcast b List.mem_cons_self
    obtain ⟨r', hr'⟩ := ih (fun c hc => hcast c (List.mem_cons_of_mem _ hc)) (r.put b.field x)
    refine ⟨r', ?_⟩
    rw [List.foldlM_cons, assign_eq_ok.mpr ⟨x, hx, rfl⟩]
    exact hr'

/-- What the assignments leave behind, by induction on the bindings: as no field is bound
twice, no assignment is overwritten by a later one. -/
theorem content_of_foldlM (hdistinct : bs.Pairwise fun a b => a.field ≠ b.field)
    {r r' : Record fields} (h : bs.foldlM (fun r b => b.assign n (value b) r) r = .ok r') :
    (∀ b ∈ bs, (Cell.mk (value b)).cast (fields.get b.field).type = .ok (r'.content b.field)) ∧
      ∀ i, (∀ b ∈ bs, b.field ≠ i) → r'.content i = r.content i := by
  induction bs generalizing r with
  | nil =>
    cases h
    exact ⟨fun _ hb => absurd hb List.not_mem_nil, fun _ _ => rfl⟩
  | cons b bs ih =>
    rw [List.foldlM_cons, bind_eq_ok] at h
    obtain ⟨_, hassign, hrest⟩ := h
    obtain ⟨x, hx, rfl⟩ := assign_eq_ok.mp hassign
    obtain ⟨hne, hdistinct⟩ := List.pairwise_cons.mp hdistinct
    obtain ⟨hbound, hkept⟩ := ih hdistinct hrest
    constructor
    · intro c hc
      cases hc with
      | head =>
        rw [hkept b.field fun c hc => (hne c hc).symm, Record.content_put_self]
        exact hx
      | tail _ hc => exact hbound c hc
    · intro i hi
      rw [hkept i fun c hc => hi c (List.mem_cons_of_mem _ hc)]
      exact Record.content_put_of_ne _ _ (hi b List.mem_cons_self)

end Assignments

end Binding

/-! ## One row -/

/-- A record and a row of the same raw row: a field whose column is among the headers holds
the cast of the row's cell, and every other field is as in the record to start from. -/
def Record.Agrees {fields : List Field} (headers : Headers) (m : ColumnMap)
    (record start : Record fields) (row : Row) : Prop :=
  ∀ i : Fin fields.length,
    (m.resolve (fields.get i).name ∈ headers.columns →
      row.cast (m.resolve (fields.get i).name) (fields.get i).type = .ok (record.content i)) ∧
    (m.resolve (fields.get i).name ∉ headers.columns →
      record.content i = start.content i)

section OneRow

variable {fields : List Field} {headers : Headers} {m : ColumnMap} {start : Record fields}
  {row : RawRow} {n : Nat}

/-- Behind a binding and behind the row's header there is the same value. -/
theorem Binding.cast_of_mem_all (hwidth : row.length = headers.width) {b : Binding fields}
    (hb : b ∈ Binding.all fields headers m) :
    b.cast row = (Row.under headers row).cast (m.resolve (fields.get b.field).name)
      (fields.get b.field).type := by
  obtain ⟨hcolumn, hposition⟩ := Binding.mem_all.mp hb
  rw [← hcolumn, Row.cast_under hwidth hposition, Binding.cast, Binding.raw_untrimmed]

theorem width_of_checkWidth {u : Unit} (h : checkWidth headers n row = .ok u) :
    row.length = headers.width := by
  unfold checkWidth at h
  split at h
  · assumption
  · cases h

theorem Record.ofRaw_eq (hwidth : row.length = headers.width) (bs : List (Binding fields))
    (trim : Bool) : Record.ofRaw headers bs start trim n row =
      bs.foldlM (fun r b => b.assign n (b.raw trim row) r) start := by
  rw [ofRaw, checkWidth, if_pos hwidth]
  rfl

theorem Record.agrees_of_ofRaw {record : Record fields}
    (h : Record.ofRaw headers (Binding.all fields headers m) start false n row = .ok record) :
    record.Agrees headers m start (Row.under headers row) := by
  have hwidth : row.length = headers.width := by
    obtain ⟨_, hcheck, -⟩ := bind_eq_ok.mp h
    exact width_of_checkWidth hcheck
  rw [ofRaw_eq hwidth] at h
  obtain ⟨hbound, hkept⟩ := Binding.content_of_foldlM Binding.pairwise_all h
  intro i
  constructor
  · intro hi
    obtain ⟨position, hposition⟩ := Headers.mem_columns_iff.mp hi
    have hb : (⟨i, m.resolve (fields.get i).name, position⟩ : Binding fields) ∈
        Binding.all fields headers m := Binding.mem_all.mpr ⟨rfl, hposition⟩
    rw [← Binding.cast_of_mem_all hwidth hb]
    exact hbound _ hb
  · intro hi
    apply hkept i
    rintro b hb rfl
    exact hi (Binding.column_mem_of_mem_all hb)

/-- A record is made exactly when every cell under a bound column casts. -/
theorem Record.ofRaw_isOk_iff (hwidth : row.length = headers.width) :
    (∃ record, Record.ofRaw headers (Binding.all fields headers m) start false n row =
        .ok record) ↔
      ∀ i : Fin fields.length, m.resolve (fields.get i).name ∈ headers.columns →
        ∃ x : (fields.get i).type.Carrier,
          (Row.under headers row).cast (m.resolve (fields.get i).name) (fields.get i).type =
            .ok x := by
  constructor
  · rintro ⟨record, h⟩ i hi
    exact ⟨record.content i, (agrees_of_ofRaw h i).1 hi⟩
  · intro hcast
    rw [ofRaw_eq hwidth]
    apply Binding.foldlM_assign_isOk
    intro b hb
    rw [← Binding.cast, Binding.cast_of_mem_all hwidth hb]
    exact hcast b.field (Binding.column_mem_of_mem_all hb)

end OneRow

/-! ## All rows -/

/-- There is a list that goes with another one when there is something for each of its items. -/
theorem exists_forall₂_iff {α β : Type} {R : α → β → Prop} {bs : List β} :
    (∃ as, List.Forall₂ R as bs) ↔ ∀ b ∈ bs, ∃ a, R a b := by
  induction bs with
  | nil => simp
  | cons b bs ih =>
    rw [List.forall_mem_cons, ← ih]
    constructor
    · rintro ⟨_, h⟩
      cases h with
      | cons ha has => exact ⟨⟨_, ha⟩, _, has⟩
    · rintro ⟨⟨a, ha⟩, as, has⟩
      exact ⟨a :: as, .cons ha has⟩

namespace RowSource

/-- A source that yields the rows and then ends. -/
def ofRows (rows : List RawRow) : List (Except Fault RawRow) := rows.map .ok

variable {α : Type} {make : Nat → RawRow → Except Fault α} {rows : List RawRow} {n : Nat}
  {as : List α} {items rest : List (Except Fault RawRow)}

/-- What is made of a list, by induction on it: of every item, which is a row then, with its
number, and nothing of the list is left. -/
theorem collect_list_eq_ok :
    collect make n items = .ok as rest ↔
      rest = [] ∧ List.Forall₂ (fun a p => ∃ row, p.1 = .ok row ∧ make p.2 row = .ok a)
        as (items.zipIdx n) := by
  induction items generalizing n as with
  | nil =>
    rw [collect_of_end rfl, List.zipIdx_nil, List.forall₂_nil_right_iff]
    simp [eq_comm, and_comm]
  | cons item items ih =>
    rw [List.zipIdx_cons]
    constructor
    · intro h
      cases item with
      | error e =>
        rw [collect_of_error rfl] at h
        cases h
      | ok row =>
        cases hmake : make n row with
        | error e =>
          rw [collect_of_make_error rfl hmake] at h
          cases h
        | ok a =>
          rw [collect_of_row rfl hmake] at h
          obtain ⟨as, hrest, rfl⟩ := prepend_eq_ok.mp h
          obtain ⟨hend, hall⟩ := ih.mp hrest
          exact ⟨hend, .cons ⟨row, rfl, hmake⟩ hall⟩
    · rintro ⟨hend, hall⟩
      cases hall with
      | cons hfirst hall =>
        obtain ⟨row, rfl, hmake⟩ := hfirst
        rw [collect_of_row rfl hmake, ih.mpr ⟨hend, hall⟩, prepend]

/-- Rows become items one by one, each made with its number. -/
theorem collect_ofRows :
    collect make n (ofRows rows) = .ok as rest ↔
      rest = [] ∧ List.Forall₂ (fun a p => make p.2 p.1 = .ok a) as (rows.zipIdx n) := by
  rw [collect_list_eq_ok, ofRows, List.zipIdx_map, List.forall₂_map_right_iff]
  simp

/-- Every row can be made into an item exactly when all rows are. -/
theorem collect_ofRows_isOk_iff :
    (∃ items, collect make n (ofRows rows) = .ok items []) ↔
      ∀ p ∈ rows.zipIdx n, ∃ item, make p.2 p.1 = .ok item := by
  simp only [collect_ofRows, true_and, exists_forall₂_iff]

end RowSource

/-- Records and rows of the same raw rows, all of the width of their headers. The rows are
always made. The records are made exactly when every row can cast its cell under every column
that a field is read from and that is among the headers; then each record agrees with its row,
and its other fields are as in the default of the record type. -/
theorem records_agree_with_rows (shape : RecordShape) (headers : Headers) (m : ColumnMap)
    (rows : List RawRow) (hwidth : ∀ row ∈ rows, row.length = headers.width) :
    ∃ dynamic : List Row,
      materialize .rows headers m false (RowSource.ofRows rows) = .ok dynamic [] ∧
      ((∃ records, materialize (.records shape) headers m false (RowSource.ofRows rows) =
          .ok records []) ↔
        ∀ row ∈ dynamic, ∀ i : Fin shape.fields.length,
          m.resolve shape.fields[i].name ∈ headers.columns →
            ∃ x : shape.fields[i].type.Carrier,
              row.cast (m.resolve shape.fields[i].name) shape.fields[i].type = .ok x) ∧
      ∀ records rest, materialize (.records shape) headers m false (RowSource.ofRows rows) =
          .ok records rest →
        List.Forall₂ (fun (record : Record shape.fields) row =>
          record.Agrees headers m shape.default row) records dynamic := by
  have hwidths : ∀ p ∈ rows.zipIdx 1, p.1.length = headers.width := by
    intro p hp
    exact hwidth p.1 (List.fst_mem_of_mem_zipIdx hp)
  refine ⟨(rows.zipIdx 1).map fun p => Row.under headers p.1, ?_, ?_, ?_⟩
  · apply RowSource.collect_ofRows.mpr
    rw [List.forall₂_map_left_iff, List.forall₂_same]
    exact ⟨rfl, fun p hp => Row.ofRaw_eq (hwidths p hp) p.2⟩
  · rw [materialize, RowSource.collect_ofRows_isOk_iff, List.forall_mem_map]
    apply forall₂_congr
    intro p hp
    exact Record.ofRaw_isOk_iff (hwidths p hp)
  · intro records rest h
    obtain ⟨-, hrecords⟩ := RowSource.collect_ofRows.mp h
    rw [List.forall₂_map_right_iff]
    exact hrecords.imp fun record p hmade => Record.agrees_of_ofRaw hmade

/-- Two columns of one header, two fields on one column, and one field without a column, in a
record type whose default is not that of its fields. -/
theorem records_agree_with_rows_shared :
    let fields : List Field := [⟨"a", ⟨.text, false⟩⟩, ⟨"x", ⟨.int32, false⟩⟩,
      ⟨"b", ⟨.nat32, true⟩⟩, ⟨"c", ⟨.boolean, false⟩⟩]
    let shape : RecordShape := @RecordShape.mk "Order" fields ⟨"none", -1, some 2, true, ()⟩
    let headers : Headers := ⟨["a", "b", "a"]⟩
    let m := ColumnMap.ofList [("x", "b")]
    let rows : List RawRow :=
      [[.boolean true, .integer 7, .null], [.integer 5, .boolean true, .text "r"]]
    (∀ row ∈ rows, row.length = headers.width) ∧
    ∃ records dynamic,
      materialize (.records shape) headers m false (RowSource.ofRows rows) = .ok records [] ∧
      materialize .rows headers m false (RowSource.ofRows rows) = .ok dynamic [] ∧
      List.Forall₂ (fun (record : Record shape.fields) row =>
        record.Agrees headers m shape.default row) records dynamic := by
  intro fields shape headers m rows
  have hwidth : ∀ row ∈ rows, row.length = headers.width := by decide
  obtain ⟨dynamic, hdynamic, -, hagree⟩ := records_agree_with_rows shape headers m rows hwidth
  have hmade : ∀ p ∈ rows.zipIdx 1,
      ∃ record, Target.make headers m false (.records shape) p.2 p.1 = .ok record := by
    refine List.forall_mem_cons.mpr ⟨⟨_, rfl⟩, List.forall_mem_cons.mpr ⟨⟨_, rfl⟩, ?_⟩⟩
    exact fun _ h => absurd h List.not_mem_nil
  obtain ⟨records, hrecords⟩ := RowSource.collect_ofRows_isOk_iff.mpr hmade
  exact ⟨hwidth, records, dynamic, hrecords, hdynamic, hagree records [] hrecords⟩

end WorkbookQuery
