/-
  Queries run on worksheets in memory. A query for rows without a type comes back with the first
  rows of its worksheet, as many as its limit lets through, each with the cells that its
  projection asks for (`execute_rows`): compiling, writing, reading the statement back, looking
  the worksheet up, picking the columns and reading the cursor all agree on what was asked for.
-/
import WorkbookQuery.Proofs.Alignment
import WorkbookQuery.Proofs.Numbering
import WorkbookQuery.Proofs.SelectReading
import WorkbookQuery.Session.Store

namespace WorkbookQuery

/-! ## What a projection makes of a worksheet -/

/-- As many of the first things as a limit lets through. -/
def limited {α : Type} : Option Nat → List α → List α
  | none, xs => xs
  | some n, xs => xs.take n

theorem length_limited {α : Type} (limit : Option Nat) (xs : List α) :
    (limited limit xs).length = min (limit.getD xs.length) xs.length := by
  cases limit with
  | none => simp [limited]
  | some n => simp [limited]

theorem limited_map {α β : Type} (f : α → β) (limit : Option Nat) (xs : List α) :
    limited limit (xs.map f) = (limited limit xs).map f := by
  cases limit with
  | none => rfl
  | some n => exact List.map_take.symm

theorem limited_nil {α : Type} (limit : Option Nat) : limited limit ([] : List α) = [] := by
  cases limit <;> simp [limited]

theorem limited_cons {α : Type} {limit : Option Nat} (h : limit ≠ some 0) (x : α)
    (xs : List α) : limited limit (x :: xs) = x :: limited (limit.map (· - 1)) xs := by
  match limit with
  | none => rfl
  | some (n + 1) => rfl
  | some 0 => exact absurd rfl h

namespace Projection

/-- All columns, or at least one, and none that is not there. -/
def IsAmong (columns : List String) : Projection → Prop
  | .all => True
  | .columns cs => cs ≠ [] ∧ ∀ c ∈ cs, c.column ∈ columns

theorem IsAmong.ne_nil {columns : List String} {p : Projection} (h : p.IsAmong columns) :
    p ≠ .columns [] := by
  rintro rfl
  exact h.1 rfl

/-- The headers of the result: of each column its other name, if it has one. -/
def headers (columns : List String) : Projection → Headers
  | .all => ⟨columns⟩
  | .columns cs => ⟨cs.map fun c => c.alias?.getD c.column⟩

/-- The values of a row under the given headers. Of columns with the same header the first
counts, a row that is too short has null, and what is too much is left out. -/
def values (columns : List String) (row : RawRow) : Projection → RawRow
  | .all => (List.range columns.length).map fun i => row[i]?.getD .null
  | .columns cs => cs.map fun c => row[columns.idxOf c.column]?.getD .null

theorem length_values (p : Projection) (columns : List String) (r : RawRow) :
    (p.values columns r).length = (p.headers columns).width := by
  cases p <;> simp [values, headers, Headers.width]

/-- A row of the result. -/
def row (p : Projection) (sheet : Sheet) (r : RawRow) : Row :=
  ⟨(p.values sheet.columns r).map Cell.mk, (p.headers sheet.columns).index⟩

end Projection

theorem Row.ofRaw_eq {headers : Headers} {row : RawRow} (h : row.length = headers.width)
    (n : Nat) : Row.ofRaw headers n row = .ok ⟨row.map Cell.mk, headers.index⟩ := by
  rw [Row.ofRaw, checkWidth, if_pos h]
  rfl

/-! ## Reading rows -/

namespace RowSource

variable {σ α : Type} [RowSource σ] {make : Nat → RawRow → Except Fault α} {n : Nat} {s t : σ}

/-- One more thing in front of a list that a run may come to. -/
def prepend (a : α) : EStateM.Result Fault σ (List α) → EStateM.Result Fault σ (List α)
  | .ok as s => .ok (a :: as) s
  | .error e s => .error e s

omit [RowSource σ] in
theorem prepend_eq_ok {a : α} {r : EStateM.Result Fault σ (List α)} {as : List α} :
    prepend a r = .ok as s ↔ ∃ rest, r = .ok rest s ∧ as = a :: rest := by
  constructor
  · intro h
    cases r with
    | ok rest t =>
      cases h
      exact ⟨rest, rfl, rfl⟩
    | error e t => cases h
  · rintro ⟨rest, rfl, rfl⟩
    rfl

omit [RowSource σ] in
theorem prepend_eq_error {a : α} {r : EStateM.Result Fault σ (List α)} {e : Fault} :
    prepend a r = .error e s ↔ r = .error e s := by
  cases r <;> simp [prepend]

theorem collect_of_end (h : next s = .ok none t) : collect make n s = .ok [] t := by
  rw [collect]
  split <;> simp_all

theorem collect_of_row {row : RawRow} {a : α} (h : next s = .ok (some row) t)
    (hmake : make n row = .ok a) : collect make n s = prepend a (collect make (n + 1) t) := by
  rw [collect]
  split
  · next hnext => simp [h] at hnext
  · next hnext => simp [h] at hnext
  · next hnext =>
    rw [h] at hnext
    cases hnext
    cases collect make (n + 1) t <;> simp only [hmake, prepend]

theorem collect_of_error {e : Fault} (h : next s = .error e t) :
    collect make n s = .error e t := by
  rw [collect]
  split <;> simp_all

theorem collect_of_make_error {row : RawRow} {e : Fault} (h : next s = .ok (some row) t)
    (hmake : make n row = .error e) : collect make n s = .error e t := by
  rw [collect]
  split
  · next hnext => simp [h] at hnext
  · next hnext => simp [h] at hnext
  · next hnext =>
    rw [h] at hnext
    cases hnext
    simp only [hmake]

/-- At its limit a source is over. -/
theorem collect_limited_zero {m : Nat → RawRow → Except Fault α} :
    collect m n (⟨s, some 0⟩ : Limited σ) = .ok [] ⟨s, some 0⟩ :=
  collect_of_end rfl

theorem next_limited {limit : Option Nat} (hlimit : limit ≠ some 0) {row : Option RawRow}
    (h : next s = .ok row t) :
    next (⟨s, limit⟩ : Limited σ) = .ok row ⟨t, limit.map (· - 1)⟩ := by
  match limit with
  | none => simp [next, h]
  | some (k + 1) => simp [next, h]
  | some 0 => exact absurd rfl hlimit

theorem next_limited_error {limit : Option Nat} (hlimit : limit ≠ some 0) {e : Fault}
    (h : next s = .error e t) :
    next (⟨s, limit⟩ : Limited σ) = .error e ⟨t, limit.map (· - 1)⟩ := by
  match limit with
  | none => simp [next, h]
  | some (k + 1) => simp [next, h]
  | some 0 => exact absurd rfl hlimit

end RowSource

namespace Store

variable {s : Store} {sheet : Sheet}

/-- A store that is open serves a cursor's rows one after the other. -/
theorem next_cons (hs : s.closed = false) (row : RawRow) (rest : List RawRow) (served : Nat) :
    RowSource.next ((⟨row :: rest, served, none⟩ : Cursor), s) =
      .ok (some row) (⟨rest, served + 1, none⟩, s) := by
  simp [RowSource.next, read, beforeRead, hs]

theorem next_nil (hs : s.closed = false) (served : Nat) :
    RowSource.next ((⟨[], served, none⟩ : Cursor), s) = .ok none (⟨[], served, none⟩, s) := by
  simp [RowSource.next, read, beforeRead, hs]

/-- A cursor yields as many of its rows as the limit lets through, by induction on the rows. -/
theorem collect_limited {α : Type} {make : Nat → RawRow → Except Fault α} {f : RawRow → α}
    (hs : s.closed = false) {rows : List RawRow}
    (hmake : ∀ n, ∀ row ∈ rows, make n row = .ok (f row)) (n served : Nat)
    (limit : Option Nat) :
    ∃ c left, RowSource.collect make n
        (⟨((⟨rows, served, none⟩ : Cursor), s), limit⟩ : Limited (Cursor × Store)) =
      .ok ((limited limit rows).map f) ⟨(c, s), left⟩ := by
  induction rows generalizing n served limit with
  | nil =>
    by_cases hlimit : limit = some 0
    · subst hlimit
      exact ⟨_, _, RowSource.collect_limited_zero⟩
    · rw [limited_nil]
      exact ⟨_, _, RowSource.collect_of_end
        (RowSource.next_limited hlimit (next_nil hs served))⟩
  | cons row rows ih =>
    by_cases hlimit : limit = some 0
    · subst hlimit
      exact ⟨_, _, RowSource.collect_limited_zero⟩
    · have hrest := fun k r hr => hmake k r (List.mem_cons_of_mem row hr)
      obtain ⟨c, left, h⟩ := ih hrest (n + 1) (served + 1) (limit.map (· - 1))
      have hnext := RowSource.next_limited hlimit (next_cons hs row rows served)
      rw [RowSource.collect_of_row hnext (hmake n row List.mem_cons_self), h,
        limited_cons hlimit]
      exact ⟨c, left, rfl⟩

/-! ## Statements -/

/-- The columns of a statement are found where their headers stand first. -/
theorem positions_eq {columns : List String} {cs : List ProjectedColumn}
    (h : ∀ c ∈ cs, c.column ∈ columns) :
    positions columns (cs.map fun c => (c.column, c.alias?)) =
      .ok (cs.map fun c => columns.idxOf c.column) := by
  induction cs with
  | nil => rfl
  | cons c cs ih =>
    have hc : columns.idxOf? c.column = some (columns.idxOf c.column) := by
      unfold List.idxOf? List.idxOf
      rw [List.findIdx?_eq_some_iff_findIdx_eq]
      exact ⟨List.findIdx_lt_length_of_exists ⟨_, h c List.mem_cons_self, by simp⟩, rfl⟩
    rw [List.map_cons, positions, hc, ih fun d hd => h d (List.mem_cons_of_mem c hd)]
    rfl

theorem project_names {p : Projection} (hp : p.IsAmong sheet.columns) :
    project sheet p.names =
      .ok (p.headers sheet.columns, sheet.rows.map (p.values sheet.columns)) := by
  cases p with
  | all => rfl
  | columns cs =>
    rw [Projection.names, project, positions_eq hp.2, ok_bind]
    simp [pure_eq_ok, Projection.headers, Projection.values, pick, Function.comp_def]

theorem hasFile_of_sheet? {path : FilePath} {name : String}
    (h : s.sheet? path name = some sheet) : s.hasFile path = true := by
  obtain ⟨stored, hstored, -⟩ := Option.map_eq_some_iff.mp h
  have hat := List.find?_some hstored
  rw [StoredSheet.isAt, Bool.and_eq_true] at hat
  exact List.any_eq_true.mpr ⟨stored, List.mem_of_find?_eq_some hstored, hat.1⟩

variable {sel : Selection} {d : Dialect} {settings : Settings} {statement : Statement}

theorem placeholderCount_eq (hd : d ∈ Dialect.profiles)
    (h : Statement.ofSelection sel d settings = .ok statement) :
    statement.placeholderCount = statement.parameters.length := by
  have hcount := Token.countPlaceholders_of_scan (scan_statement hd h)
  rw [count_placeholder_tokens] at hcount
  obtain ⟨-, -, hstatement⟩ := ofSelection_eq_ok.mp h
  rw [Statement.placeholderCount, hcount, ← hstatement]
  exact (sel.length_parameters d settings.matching).symm

theorem ofText_eq (hd : d ∈ Dialect.profiles)
    (h : Statement.ofSelection sel d settings = .ok statement)
    (hp : sel.projection ≠ .columns []) (hname : sel.worksheet.toList.getLast? ≠ some '$') :
    SelectTarget.ofText statement.text = .ok ⟨sel.projection.names, sel.worksheet⟩ := by
  rw [SelectTarget.ofText, scan_statement hd h, ok_bind, SelectTarget.ofTokens?_tokens hp,
    SelectTarget.stripSuffix, if_neg hname]
  rfl

/-- The result of a statement for a selection: its placeholders are as many as its parameters,
and its worksheet and columns are read back from its text. -/
theorem answer_eq {path : FilePath} (hd : d ∈ Dialect.profiles)
    (h : Statement.ofSelection sel d settings = .ok statement)
    (hp : sel.projection.IsAmong sheet.columns)
    (hname : sel.worksheet.toList.getLast? ≠ some '$')
    (hsheet : s.sheet? path sel.worksheet = some sheet) :
    s.answer path statement = .ok (sel.projection.headers sheet.columns,
      ⟨sheet.rows.map (sel.projection.values sheet.columns), 0, s.abortAfter⟩) := by
  have hcount := placeholderCount_eq hd h
  have htarget := ofText_eq hd h hp.ne_nil hname
  rw [answer, if_neg (not_not_intro hcount), htarget, ok_bind]
  dsimp only
  rw [hsheet]
  dsimp only
  rw [project_names hp]
  rfl

theorem connect_of_file {file : WorkbookFile} {d : Dialect} (hs : s.closed = false)
    (h : s.hasFile file.path = true) : connect file d s = .ok ⟨file.path⟩ s := by
  rw [connect, hs, if_neg Bool.false_ne_true, if_pos h]

/-- An open store keeps a statement, whatever its answer is. -/
theorem execute_of_open (hs : s.closed = false) (path : FilePath) (statement : Statement) :
    execute ⟨path⟩ statement s =
      match s.answer path statement with
      | .ok result => .ok result { s with executed := s.executed ++ [statement] }
      | .error e => .error e { s with executed := s.executed ++ [statement] } := by
  rw [execute, if_neg (Bool.eq_false_iff.mp hs)]
  rfl

/-- A statement for a selection is kept, and then read by a cursor over the worksheet's rows. -/
theorem execute_eq {path : FilePath} (hs : s.closed = false) (habort : s.abortAfter = none)
    (hd : d ∈ Dialect.profiles)
    (h : Statement.ofSelection sel d settings = .ok statement)
    (hp : sel.projection.IsAmong sheet.columns)
    (hname : sel.worksheet.toList.getLast? ≠ some '$')
    (hsheet : s.sheet? path sel.worksheet = some sheet) :
    execute ⟨path⟩ statement s = .ok (sel.projection.headers sheet.columns,
        ⟨sheet.rows.map (sel.projection.values sheet.columns), 0, none⟩)
      { s with executed := s.executed ++ [statement] } := by
  rw [execute_of_open hs, answer_eq hd h hp hname hsheet, habort]

end Store

/-! ## What a chain reads -/

/-- The names of the fields, when a chain reads its columns as those of a record. -/
def Expr.recordNames? : Expr → Option (List String)
  | .call target method args =>
    match method, args with
    | "select", [.lambda _ (.record fields)] => some (fields.map Prod.fst)
    | _, _ => target.recordNames?
  | _ => none

namespace Selection

variable {m : ColumnMap} {s s' : Selection} {n n' : Nat} {worksheet : String}

theorem Applies.worksheet_eq {method : String} {args : List Expr}
    (h : Applies m method args s n s' n') : s'.worksheet = s.worksheet := by
  cases h <;> rfl

theorem Drafts.worksheet_eq {e : Expr} (h : Drafts m worksheet e s n) :
    s.worksheet = worksheet := by
  induction h with
  | source => rfl
  | call _ hcall ih => exact hcall.worksheet_eq.trans ih

/-- A field's column is headed by the field's name, under which it goes in the result when
that is not its own. -/
theorem headers_of_fieldColumns {p : String} {fields : List (String × Expr)}
    {columns : List ProjectedColumn} (h : fieldColumns m p fields n = .ok (columns, n')) :
    columns.map (fun c => c.alias?.getD c.column) = fields.map Prod.fst := by
  induction fields generalizing n columns n' with
  | nil => cases h; rfl
  | cons field fields ih =>
    simp only [fieldColumns, bind_eq_ok, pure_eq_ok, Prod.exists, Prod.mk.injEq] at h
    obtain ⟨c, n₁, -, rest, n₂, hrest, rfl, rfl⟩ := h
    have hname : (if field.1 = c then none else some field.1).getD c = field.1 := by
      split
      · next hsame => exact hsame.symm
      · rfl
    rw [List.map_cons, List.map_cons, ih hrest, hname]

/-- The selection reads columns that go by these names. -/
def Heads (s : Selection) (names : List String) : Prop :=
  ∃ columns, s.projection = .columns columns ∧
    columns.map (fun c => c.alias?.getD c.column) = names

theorem Heads.isProjected {names : List String} (h : s.Heads names) : s.isProjected = true := by
  obtain ⟨columns, hcolumns, -⟩ := h
  rw [Selection.isProjected, hcolumns]

theorem Heads.headers {names columns : List String} (h : s.Heads names) :
    s.projection.headers columns = ⟨names⟩ := by
  obtain ⟨cs, hcs, hnames⟩ := h
  rw [hcs, Projection.headers, hnames]

theorem heads_of_select {p : String} {fields : List (String × Expr)}
    (h : Applies m "select" [.lambda p (.record fields)] s n s' n') :
    s'.Heads (fields.map Prod.fst) := by
  obtain ⟨-, ⟨_, hargs, -⟩ | ⟨_, _, _, hargs, hcolumns, rfl⟩ | ⟨_, _, _, hargs, hc, -⟩⟩ :=
    applies_select.mp h
  · cases hargs
  · cases hargs
    exact ⟨_, rfl, headers_of_fieldColumns hcolumns⟩
  · cases hargs
    exact absurd rfl ((Term.forms_of_columnOfExpr hc).2 fields)

/-- A record's columns are those of the chain: what is read once as a record is not read as
anything else after that. -/
theorem Drafts.heads {e : Expr} (h : Drafts m worksheet e s n) {names : List String}
    (hnames : e.recordNames? = some names) : s.Heads names := by
  induction h with
  | source => cases hnames
  | call _ hcall ih =>
    unfold Expr.recordNames? at hnames
    split at hnames
    · -- the call is the one that reads a record
      cases hnames
      exact heads_of_select hcall
    · -- an earlier call has read one
      have hs := ih hnames
      have hprojected := hs.isProjected
      cases hcall with
      | filter | ordering | take | first | firstWhere | asRows => exact hs
      | identity hnot => exact hs
      | record hnot | column hnot =>
        rw [hnot] at hprojected
        cases hprojected

end Selection

/-! ## Runs -/

namespace Workbook

variable {w : Workbook}

theorem Opened.mem_profiles (h : w.Opened) : w.dialect ∈ Dialect.profiles := by
  rw [h.validated.1]
  unfold Settings.dialectFor
  cases w.settings.formatFor w.file.format with
  | csv | preExcel2007 | excel2007 => simp [Dialect.profiles]

theorem plan_of_translate {t : Target} {q : Query t} {tr : Translation}
    (h : w.translate q = .ok tr)
    (ht : tr.selection.element.isDynamic = t.element.isDynamic) : w.plan q = .ok tr := by
  rw [plan, h, ok_bind]
  exact if_pos ht

/-- Running is compiling, connecting, running the statement and reading its cursor. The first
stage that fails ends the run in the state that it leaves. -/
theorem execute_eq_stages {t : Target} {δ : Type} [Driver δ] {q : Query t} {tr : Translation}
    (h : w.plan q = .ok tr) (s : δ) :
    w.execute q s =
      match Driver.connect w.file w.dialect s with
      | .error e s => .error e s
      | .ok connection s =>
        match Driver.execute connection tr.statement s with
        | .error e s => .error e s
        | .ok (headers, cursor) s =>
          match w.readAll q headers tr.selection.limit cursor s with
          | .error e s => .error e s
          | .ok items s =>
            if items.isEmpty ∧ tr.selection.cardinality = .first then .error .noRows s
            else .ok items s := by
  unfold execute
  rw [h]
  dsimp only [bind, EStateM.bind]
  cases Driver.connect w.file w.dialect s with
  | error e s => rfl
  | ok connection s =>
    dsimp only
    cases Driver.execute connection tr.statement s with
    | error e s => rfl
    | ok result s =>
      dsimp only
      cases w.readAll q result.1 tr.selection.limit result.2 s with
      | error e s => rfl
      | ok items s =>
        dsimp only
        split <;> rfl

/-- When every stage succeeds, a first row may still be missing. -/
theorem execute_of_plan {t : Target} {δ : Type} [Driver δ] {q : Query t} {tr : Translation}
    (h : w.plan q = .ok tr) {s s₁ s₂ s₃ : δ} {connection : Driver.Connection δ}
    {headers : Headers} {cursor : Driver.Cursor δ} {items : List t.Item}
    (hconnect : Driver.connect w.file w.dialect s = .ok connection s₁)
    (hexecute : Driver.execute connection tr.statement s₁ = .ok (headers, cursor) s₂)
    (hread : w.readAll q headers tr.selection.limit cursor s₂ = .ok items s₃) :
    w.execute q s =
      if items.isEmpty ∧ tr.selection.cardinality = .first then .error .noRows s₃
      else .ok items s₃ := by
  simp only [execute_eq_stages h, hconnect, hexecute, hread]

theorem readAll_of_materialize {t : Target} {δ : Type} [Driver δ] {q : Query t}
    {headers : Headers} {limit : Option Nat} {cursor : Driver.Cursor δ} {s : δ}
    {items : List t.Item} {left : Limited (Driver.Cursor δ × δ)}
    (h : materialize t headers q.columns w.settings.trimText ⟨(cursor, s), limit⟩ =
      .ok items left) : w.readAll q headers limit cursor s = .ok items left.source.2 := by
  unfold readAll
  dsimp only
  rw [h]

/-- A cursor over the columns of a projection is read into the rows of the result. -/
theorem readAll_store {q : Query .rows} {s : Store} (hs : s.closed = false) (p : Projection)
    (sheet : Sheet) (limit : Option Nat) :
    w.readAll q (p.headers sheet.columns) limit
        (⟨sheet.rows.map (p.values sheet.columns), 0, none⟩ : Store.Cursor) s =
      .ok ((limited limit sheet.rows).map (p.row sheet)) s := by
  have hmake : ∀ n, ∀ row ∈ sheet.rows.map (p.values sheet.columns),
      Row.ofRaw (p.headers sheet.columns) n row =
        .ok ⟨row.map Cell.mk, (p.headers sheet.columns).index⟩ := by
    intro n row hrow
    obtain ⟨r, -, rfl⟩ := List.mem_map.mp hrow
    exact Row.ofRaw_eq (p.length_values sheet.columns r) n
  obtain ⟨c, left, hcollect⟩ := Store.collect_limited hs hmake 1 0 limit
  rw [limited_map, List.map_map] at hcollect
  have hread : materialize .rows (p.headers sheet.columns) q.columns w.settings.trimText
      (⟨(⟨sheet.rows.map (p.values sheet.columns), 0, none⟩, s), limit⟩ :
        Limited (Store.Cursor × Store)) =
      .ok ((limited limit sheet.rows).map (p.row sheet)) ⟨(c, s), left⟩ := hcollect
  exact readAll_of_materialize hread

end Workbook

/-- A query for rows without a type, on a store that is open and keeps open, comes back with the
first rows of its worksheet in their order, as many as its limit lets through. Only when it asks
for a first row and there is none, it fails, for want of rows. Each row has the cells of the
projection under the projection's headers, and these are the names of the fields when the query
reads a record. -/
theorem execute_rows {w : Workbook} (hw : w.Opened) {s : Store} (hs : s.closed = false)
    (habort : s.abortAfter = none) {q : Query .rows} {sheet : Sheet}
    (hname : q.worksheet.toList.getLast? ≠ some '$')
    (hsheet : s.sheet? w.file.path q.worksheet = some sheet) {tr : Translation}
    (h : w.translate q = .ok tr) (hdynamic : tr.selection.element.isDynamic = true)
    (hp : tr.selection.projection.IsAmong sheet.columns) :
    let p := tr.selection.projection
    let rows := (limited tr.selection.limit sheet.rows).map (p.row sheet)
    let s' := { s with executed := s.executed ++ [tr.statement] }
    w.execute q s =
        (if rows.isEmpty ∧ tr.selection.cardinality = .first then .error .noRows s'
          else .ok rows s') ∧
      rows.length = min (tr.selection.limit.getD sheet.rows.length) sheet.rows.length ∧
      ∀ names, q.expr.recordNames? = some names →
        p.headers sheet.columns = ⟨names⟩ := by
  intro p rows s'
  obtain ⟨hselection, hstatement⟩ := translate_eq_ok.mp h
  obtain ⟨n, hdrafts⟩ := Selection.ofExpr_eq_ok.mp hselection
  rw [← hdrafts.worksheet_eq] at hname hsheet
  have hconnect : Driver.connect w.file w.dialect s = .ok ⟨w.file.path⟩ s :=
    Store.connect_of_file hs (Store.hasFile_of_sheet? hsheet)
  have hexecute := Store.execute_eq hs habort hw.mem_profiles hstatement hp hname hsheet
  have hs' : s'.closed = false := hs
  have hread : w.readAll q _ _ _ s' = .ok rows s' :=
    Workbook.readAll_store hs' p sheet tr.selection.limit
  refine ⟨?_, ?_, fun names hnames => (hdrafts.heads hnames).headers⟩
  · exact Workbook.execute_of_plan (Workbook.plan_of_translate h hdynamic) hconnect hexecute hread
  · rw [List.length_map, length_limited]

/-- Two columns of one name, one without a name, short and long rows, and a record whose fields
take the names of each other's columns. -/
theorem execute_rows_renamed :
    let w : Workbook := ⟨⟨⟨"a.xlsx"⟩, .excel2007⟩, {}, .ofFormat .excel2007⟩
    let sheet : Sheet :=
      { columns := ["a", "b", "a", ""]
        rows := [[.integer 1, .integer 2, .integer 3, .text "x"], [.integer 4],
          [.integer 5, .integer 6, .integer 7, .integer 8, .integer 9]] }
    let s : Store := { sheets := [⟨⟨"a.xlsx"⟩, "S", sheet⟩] }
    let q : Query .rows := ((Query.ofWorksheet .rows "S").take 2).select fun x =>
      .record [("b", .member x "a"), ("", .member x ""), ("a", .member x "b")]
    let statement : Statement :=
      { text := "SELECT TOP 2 [a] AS [b], [], [b] AS [a] FROM [S$]", parameters := [] }
    let index : HeaderIndex := [("a", 2), ("", 1), ("b", 0)]
    w.execute q s = .ok
      [⟨[⟨.integer 1⟩, ⟨.text "x"⟩, ⟨.integer 2⟩], index⟩,
        ⟨[⟨.integer 4⟩, ⟨.null⟩, ⟨.null⟩], index⟩]
      { s with executed := [statement] } := by
  intro w sheet s q statement index
  let columns : List ProjectedColumn := [⟨"a", some "b"⟩, ⟨"", none⟩, ⟨"b", some "a"⟩]
  let tr : Translation :=
    ⟨{ worksheet := "S", projection := .columns columns, limit := some 2 }, statement⟩
  have hpath : Workbook.ofPath ⟨"a.xlsx"⟩ = .ok w := eq_ok_of_toOption (by decide +kernel)
  have htr : w.translate q = .ok tr := eq_ok_of_toOption (by decide +kernel)
  have hp : (Projection.columns columns).IsAmong sheet.columns := ⟨by decide, by decide⟩
  have hopen : s.closed = false ∧ s.abortAfter = none := ⟨rfl, rfl⟩
  have hsheet : s.sheet? w.file.path q.worksheet = some sheet := by decide +kernel
  have hrun := execute_rows (.ofPath hpath) hopen.1 hopen.2 (by decide) hsheet htr rfl hp
  exact hrun.1.trans rfl

end WorkbookQuery
