/-
  When a store that is to close after some rows cuts a query off. The store is closed by the read
  that follows its last row, so what counts is whether a query makes that read: it does when its
  worksheet has the rows and its limit lets one more read through, also when there is no row left
  for it. Such a query is aborted, and whatever is called on the store afterwards, no query gets a
  connection again. Every other query reads its rows as if there were no threshold
  (`execute_threshold`). The threshold is the one that was set last: no query and no other call
  changes it (`Store.Later.abortAfter`).
-/
import WorkbookQuery.Proofs.Footprint
import WorkbookQuery.Proofs.Legibility

namespace WorkbookQuery

namespace Store

/-! ## Statements that resolve -/

/-- A store finds what a statement asks for: the statement's text is read, the worksheet it names
is in the file, and each column that it names is a column of the worksheet. -/
def Resolves (s : Store) (path : FilePath) (statement : Statement) (sheet : Sheet) : Prop :=
  ∃ target, SelectTarget.ofText statement.text = .ok target ∧
    s.sheet? path target.worksheet = some sheet ∧
    ∀ names, target.columns = some names → ∀ c ∈ names, c.1 ∈ sheet.columns

variable {s : Store} {sheet : Sheet} {path : FilePath} {sel : Selection} {d : Dialect}
  {settings : Settings} {statement : Statement}

theorem ofText_of_columns (hd : d ∈ Dialect.profiles)
    (h : Statement.ofSelection sel d settings = .ok statement)
    (hp : sel.projection ≠ .columns []) : SelectTarget.ofText statement.text =
      .ok ⟨sel.projection.names, SelectTarget.stripSuffix sel.worksheet⟩ := by
  rw [SelectTarget.ofText, scan_statement hd h, ok_bind, SelectTarget.ofTokens?_tokens hp]
  rfl

/-- The statement of a selection resolves when the selection's worksheet, one `$` at its end
taken off, is there, and the selection reads all its columns or some of them. A selection of no
columns at all has a statement that is not read. -/
theorem resolves_iff (hd : d ∈ Dialect.profiles)
    (h : Statement.ofSelection sel d settings = .ok statement) :
    s.Resolves path statement sheet ↔
      s.sheet? path (SelectTarget.stripSuffix sel.worksheet) = some sheet ∧
        sel.projection.IsAmong sheet.columns := by
  by_cases hp : sel.projection = .columns []
  · constructor
    · rintro ⟨target, htarget, -⟩
      rw [ofText_of_no_columns hp hd h] at htarget
      cases htarget
    · rintro ⟨-, hamong⟩
      exact absurd hp hamong.ne_nil
  have htext := ofText_of_columns hd h hp
  constructor
  · rintro ⟨target, htarget, hsheet, hcolumns⟩
    rw [htext] at htarget
    cases htarget
    refine ⟨hsheet, ?_⟩
    cases hprojection : sel.projection with
    | all => trivial
    | columns cs =>
      rw [hprojection] at hp hcolumns
      refine ⟨fun hcs => hp (congrArg Projection.columns hcs), fun c hc => ?_⟩
      exact hcolumns _ rfl (c.column, c.alias?) (List.mem_map_of_mem hc)
  · rintro ⟨hsheet, hamong⟩
    refine ⟨_, htext, hsheet, fun names hnames c hc => ?_⟩
    cases hprojection : sel.projection with
    | all =>
      rw [hprojection] at hnames
      cases hnames
    | columns cs =>
      rw [hprojection] at hamong hnames
      cases hnames
      obtain ⟨column, hcolumn, rfl⟩ := List.mem_map.mp hc
      exact hamong.2 column hcolumn

theorem hasFile_of_resolves (h : s.Resolves path statement sheet) : s.hasFile path = true := by
  obtain ⟨target, -, hsheet, -⟩ := h
  exact hasFile_of_sheet? hsheet

/-- A statement that resolves is answered with a cursor over the worksheet's rows. -/
theorem answer_of_resolves (hd : d ∈ Dialect.profiles)
    (h : Statement.ofSelection sel d settings = .ok statement)
    (hresolves : s.Resolves path statement sheet) :
    s.answer path statement = .ok (sel.projection.headers sheet.columns,
      ⟨sheet.rows.map (sel.projection.values sheet.columns), 0, s.abortAfter⟩) := by
  obtain ⟨hsheet, hamong⟩ := (resolves_iff hd h).mp hresolves
  rw [answer, if_neg (not_not_intro (placeholderCount_eq hd h)),
    ofText_of_columns hd h hamong.ne_nil, ok_bind]
  dsimp only
  rw [hsheet]
  dsimp only
  rw [project_names hamong]
  rfl

/-! ## Reading up to a threshold -/

section Reading

variable {α : Type} {make : Nat → RawRow → Except Fault α} {f : RawRow → α}
  {rows : List RawRow} {n served k : Nat} {limit : Option Nat}

/-- The fault of a read that finds its store closed. -/
def closedAfter (served : Nat) : Fault :=
  .aborted ("connection closed after " ++ toString served ++ " rows")

theorem next_at_threshold (c : Cursor) (h : c.abortAfter = some c.served) :
    RowSource.next (c, s) = .error (closedAfter c.served) (c, s.close) := by
  have hstore : beforeRead c s = s.close := by rw [beforeRead, if_pos h]
  have hread : read (c, s) = .error (closedAfter c.served) (c, s.close) := by
    rw [read, hstore]
    rfl
  exact hread

/-- Short of its threshold a cursor of an open store has no row left, or it serves one. -/
theorem next_below_threshold (hs : s.closed = false) {c : Cursor}
    (h : c.abortAfter ≠ some c.served) :
    (c.rows = [] → RowSource.next (c, s) = .ok none (c, s)) ∧
      ∀ row rest, c.rows = row :: rest → RowSource.next (c, s) =
        .ok (some row) ({ c with rows := rest, served := c.served + 1 }, s) := by
  have hopen : (beforeRead c s).closed = false := by rw [beforeRead, if_neg h, hs]
  exact (read_of_open hopen).2

theorem reachesThreshold_of_served {c : Cursor} (hlimit : limit ≠ some 0)
    (h : c.abortAfter = some c.served) : c.ReachesThreshold make n limit := by
  refine ⟨0, h, Nat.zero_le _, ?_, fun i _ hi => absurd hi (Nat.not_lt_zero i)⟩
  rintro l rfl
  exact Nat.pos_of_ne_zero fun hl => hlimit (congrArg some hl)

/-- When something is made of every row, only the rows and the limit count. -/
theorem reachesThreshold_iff (hmake : ∀ n, ∀ row ∈ rows, make n row = .ok (f row)) :
    Cursor.ReachesThreshold ⟨rows, 0, some k⟩ make n limit ↔
      k ≤ rows.length ∧ ∀ l, limit = some l → k < l := by
  constructor
  · rintro ⟨i, hi, hlength, hbound, -⟩
    have hk : k = i := (Option.some.inj hi).trans (Nat.zero_add i)
    rw [hk]
    exact ⟨hlength, hbound⟩
  · rintro ⟨hlength, hbound⟩
    refine ⟨k, congrArg some (Nat.zero_add k).symm, hlength, hbound, fun i row _ hrow => ?_⟩
    exact ⟨f row, hmake (n + i) row (List.mem_of_getElem? hrow)⟩

/-- At its threshold a cursor is cut off, if its limit lets it be read at all. -/
theorem collect_at_threshold {c : Cursor} (hlimit : limit ≠ some 0)
    (h : c.abortAfter = some c.served) :
    ∃ left, RowSource.collect make n (⟨(c, s), limit⟩ : Limited (Cursor × Store)) =
      .error (closedAfter c.served) ⟨(c, s.close), left⟩ :=
  ⟨_, RowSource.collect_of_error (RowSource.next_limited_error hlimit (next_at_threshold c h))⟩

/-- A cursor that comes to its threshold is cut off there. By induction on the rows: each row
before the threshold is served, and something is made of it. -/
theorem collect_of_reaches (hs : s.closed = false)
    (h : Cursor.ReachesThreshold ⟨rows, served, some k⟩ make n limit) :
    ∃ c left, RowSource.collect make n
        (⟨((⟨rows, served, some k⟩ : Cursor), s), limit⟩ : Limited (Cursor × Store)) =
      .error (closedAfter k) ⟨(c, s.close), left⟩ := by
  induction rows generalizing n served limit with
  | nil =>
    obtain ⟨i, hi, hlength, hbound, -⟩ := h
    obtain rfl : i = 0 := Nat.le_zero.mp hlength
    obtain rfl : k = served := Option.some.inj hi
    have hlimit : limit ≠ some 0 := fun hzero => absurd (hbound 0 hzero) (Nat.not_lt_zero 0)
    exact ⟨_, collect_at_threshold hlimit rfl⟩
  | cons row rows ih =>
    have ⟨i, hi, _, hbound, hmade⟩ := h
    have hlimit : limit ≠ some 0 := fun hzero => absurd (hbound 0 hzero) (Nat.not_lt_zero i)
    cases i with
    | zero =>
      obtain rfl : k = served := Option.some.inj hi
      exact ⟨_, collect_at_threshold hlimit rfl⟩
    | succ i =>
      have hserved : k = served + (i + 1) := Option.some.inj hi
      have hthreshold : some k ≠ some served := fun hsome => by
        have hk : k = served := Option.some.inj hsome
        omega
      obtain ⟨a, hrow⟩ : ∃ a, make n row = .ok a := hmade 0 row (Nat.succ_pos i) rfl
      have hnext := (next_below_threshold hs
        (c := ⟨row :: rows, served, some k⟩) hthreshold).2 row rows rfl
      obtain ⟨c, left, hcollect⟩ := ih ((reachesThreshold_cons hthreshold hlimit hrow).mp h)
      rw [RowSource.collect_of_row (RowSource.next_limited hlimit hnext) hrow, hcollect]
      exact ⟨c, left, rfl⟩

/-- A cursor that does not come to its threshold, for want of rows or by the limit, yields as many
rows as the limit lets through. By induction on the rows. -/
theorem collect_of_not_reaches (hs : s.closed = false) {threshold : Option Nat}
    (hmake : ∀ n, ∀ row ∈ rows, make n row = .ok (f row))
    (h : ¬ Cursor.ReachesThreshold ⟨rows, served, threshold⟩ make n limit) :
    ∃ c left, RowSource.collect make n
        (⟨((⟨rows, served, threshold⟩ : Cursor), s), limit⟩ : Limited (Cursor × Store)) =
      .ok ((limited limit rows).map f) ⟨(c, s), left⟩ := by
  induction rows generalizing n served limit with
  | nil =>
    by_cases hlimit : limit = some 0
    · subst hlimit
      exact ⟨_, _, RowSource.collect_limited_zero⟩
    have hthreshold : threshold ≠ some served := fun hserved =>
      h (reachesThreshold_of_served hlimit hserved)
    have hnext := (next_below_threshold hs (c := ⟨[], served, threshold⟩) hthreshold).1 rfl
    rw [limited_nil]
    exact ⟨_, _, RowSource.collect_of_end (RowSource.next_limited hlimit hnext)⟩
  | cons row rows ih =>
    by_cases hlimit : limit = some 0
    · subst hlimit
      exact ⟨_, _, RowSource.collect_limited_zero⟩
    have hthreshold : threshold ≠ some served := fun hserved =>
      h (reachesThreshold_of_served hlimit hserved)
    have hnext :=
      (next_below_threshold hs (c := ⟨row :: rows, served, threshold⟩) hthreshold).2 row rows rfl
    have hrow : make n row = .ok (f row) := hmake n row List.mem_cons_self
    have hrest := fun m r hr => hmake m r (List.mem_cons_of_mem row hr)
    rw [reachesThreshold_cons hthreshold hlimit hrow] at h
    obtain ⟨c, left, hcollect⟩ := ih hrest h
    rw [RowSource.collect_of_row (RowSource.next_limited hlimit hnext) hrow, hcollect,
      limited_cons hlimit]
    exact ⟨c, left, rfl⟩

end Reading

/-! ## Calls and the threshold -/

/-- The call says after how many rows the store is to close. -/
def Action.SetsThreshold : Action → Prop
  | .closeAfterRows _ => True
  | _ => False

section Calls

variable (s : Store)

theorem stateAfter_connect (file : WorkbookFile) (d : Dialect) :
    stateAfter (connect file d s) = s := by
  unfold connect
  split
  · rfl
  · split <;> rfl

theorem abortAfter_stateAfter_execute (connection : Connection) (statement : Statement) :
    (stateAfter (execute connection statement s)).abortAfter = s.abortAfter := by
  unfold execute
  split
  · rfl
  · dsimp only
    split <;> rfl

theorem abortAfter_stateAfter_read (c : Cursor) :
    (stateAfter (read (c, s))).2.abortAfter = s.abortAfter := by
  have hbefore : (beforeRead c s).abortAfter = s.abortAfter := by
    unfold beforeRead
    split <;> rfl
  unfold read
  dsimp only
  split
  · exact hbefore
  · split <;> exact hbefore

end Calls

/-- Every other call leaves the threshold as it is. -/
theorem World.abortAfter_of_perform {w w' : World} {a : Action} {event : Event}
    (ha : ¬ a.SetsThreshold) (h : w.perform a = some (event, w')) :
    w'.store.abortAfter = w.store.abortAfter := by
  cases a with
  | addSheet | close =>
    cases h
    rfl
  | closeAfterRows => exact absurd trivial ha
  | connect file d =>
    have hkept := stateAfter_connect w.store file d
    simp only [World.perform] at h
    split at h <;> next hconnect =>
      rw [hconnect] at hkept
      cases h
      exact congrArg abortAfter hkept
  | execute i statement =>
    obtain ⟨c, -, h⟩ := Option.map_eq_some_iff.mp h
    have hkept := abortAfter_stateAfter_execute w.store c statement
    split at h <;> next hexecute =>
      rw [hexecute] at hkept
      cases h
      exact hkept
  | read i =>
    obtain ⟨c, -, h⟩ := Option.map_eq_some_iff.mp h
    have hkept := abortAfter_stateAfter_read w.store c
    split at h <;> next hread =>
      rw [hread] at hkept
      cases h
      exact hkept

/-! ## What comes later -/

/-- The stores that there may be later: after any calls of the kinds that are allowed, on the
store and on what it has given out, and any queries that were run on it. -/
inductive Later (allowed : Action → Prop) (s : Store) : Store → Prop where
  | now : Later allowed s s
  | call {w w' : World} {a : Action} {event : Event} : Later allowed s w.store → allowed a →
      w.perform a = some (event, w') → Later allowed s w'.store
  | query {s' : Store} {t : Target} (w : Workbook) (q : Query t) :
      Later allowed s s' → Later allowed s (stateAfter (w.execute q s'))

end Store

namespace Workbook

variable {t : Target} {w : Workbook} {q : Query t} {s : Store} {tr : Translation}

theorem execute_of_closed (hplan : w.plan q = .ok tr) (hs : s.closed = true) :
    w.execute q s = .error (.connection "driver has been closed") s := by
  have hconnect : Driver.connect w.file w.dialect s =
      .error (.connection "driver has been closed") s := if_pos hs
  exact execute_of_connect_error hplan hconnect

/-- A query leaves a closed store as it was. -/
theorem stateAfter_execute_of_closed (w : Workbook) (q : Query t) (hs : s.closed = true) :
    stateAfter (w.execute q s) = s := by
  cases hplan : w.plan q with
  | error fault =>
    rw [execute_of_plan_error hplan]
    rfl
  | ok tr =>
    rw [execute_of_closed hplan hs]
    rfl

/-- A query leaves the threshold as it is, wherever its run ends. -/
theorem abortAfter_stateAfter_execute (w : Workbook) (q : Query t) (s : Store) :
    (stateAfter (w.execute q s)).abortAfter = s.abortAfter := by
  cases hplan : w.plan q with
  | error fault =>
    rw [execute_of_plan_error hplan]
    rfl
  | ok tr =>
    by_cases hopen : s.closed = true
    · rw [stateAfter_execute_of_closed w q hopen]
    by_cases hfile : ∃ stored ∈ s.sheets, stored.path.same w.file.path = true
    · obtain ⟨-, hstate⟩ | ⟨-, hstate⟩ :=
        stateAfter_of_file hplan (Bool.eq_false_iff.mpr hopen) hfile
      · rw [hstate]
        rfl
      · rw [hstate]
    · obtain ⟨fault, hconnect⟩ := Store.connect_of_unreachable (d := w.dialect)
        (.inr fun stored hstored => Bool.eq_false_iff.mpr fun h => hfile ⟨stored, hstored, h⟩)
      rw [execute_of_connect_error hplan hconnect]
      rfl

end Workbook

section Later

open Store

variable {allowed : Action → Prop} {s s' : Store}

theorem Store.Later.closed (h : s.Later allowed s') (hs : s.closed = true) :
    s'.closed = true := by
  induction h with
  | now => exact hs
  | call _ _ hperform ih => exact (refused_of_step (step_of_perform hperform) ih).1
  | query w q _ ih =>
    rw [Workbook.stateAfter_execute_of_closed w q ih]
    exact ih

/-- The threshold stays until another one is set. -/
theorem Store.Later.abortAfter (h : s.Later (fun a => ¬ a.SetsThreshold) s') :
    s'.abortAfter = s.abortAfter := by
  induction h with
  | now => rfl
  | call _ ha hperform ih => exact (World.abortAfter_of_perform ha hperform).trans ih
  | query w q _ ih => exact (w.abortAfter_stateAfter_execute q _).trans ih

end Later

namespace Workbook

variable {w : Workbook} {s : Store} {q : Query .rows} {tr : Translation} {sheet : Sheet}

/-- A query that was translated and whose statement resolves gets a connection, and a cursor over
the worksheet's rows. -/
theorem stages_of_resolves (hw : w.Opened) (hs : s.closed = false) {threshold : Option Nat}
    (hthreshold : s.abortAfter = threshold) (h : w.translate q = .ok tr)
    (hresolves : s.Resolves w.file.path tr.statement sheet) :
    let p := tr.selection.projection
    Store.connect w.file w.dialect s = .ok ⟨w.file.path⟩ s ∧
      Store.execute ⟨w.file.path⟩ tr.statement s = .ok (p.headers sheet.columns,
          ⟨sheet.rows.map (p.values sheet.columns), 0, threshold⟩)
        { s with executed := s.executed ++ [tr.statement] } := by
  intro p
  obtain ⟨-, hstatement⟩ := translate_eq_ok.mp h
  have hanswer := Store.answer_of_resolves hw.mem_profiles hstatement hresolves
  rw [hthreshold] at hanswer
  refine ⟨Store.connect_of_file hs (Store.hasFile_of_resolves hresolves), ?_⟩
  rw [Store.execute_of_open hs, hanswer]

theorem execute_of_read_error {t : Target} {δ : Type} [Driver δ] {q : Query t}
    (h : w.plan q = .ok tr) {s s₁ s₂ s₃ : δ} {connection : Driver.Connection δ}
    {headers : Headers} {cursor : Driver.Cursor δ} {fault : Fault}
    (hconnect : Driver.connect w.file w.dialect s = .ok connection s₁)
    (hexecute : Driver.execute connection tr.statement s₁ = .ok (headers, cursor) s₂)
    (hread : w.readAll q headers tr.selection.limit cursor s₂ = .error fault s₃) :
    w.execute q s = .error fault s₃ := by
  simp only [execute_eq_stages h, hconnect, hexecute, hread]

/-- Something is made of every row that a projection yields. -/
theorem make_values (p : Projection) (sheet : Sheet) (n : Nat) :
    ∀ row ∈ sheet.rows.map (p.values sheet.columns),
      Row.ofRaw (p.headers sheet.columns) n row =
        .ok ⟨row.map Cell.mk, (p.headers sheet.columns).index⟩ := by
  intro row hrow
  obtain ⟨r, -, rfl⟩ := List.mem_map.mp hrow
  exact Row.ofRaw_eq (p.length_values sheet.columns r) n

/-- A cursor over the rows of a worksheet comes to its threshold when there are so many rows and
the limit lets one more be read. -/
theorem reachesThreshold_values {p : Projection} {k : Nat} {limit : Option Nat} :
    Store.Cursor.ReachesThreshold ⟨sheet.rows.map (p.values sheet.columns), 0, some k⟩
        (Row.ofRaw (p.headers sheet.columns)) 1 limit ↔
      k ≤ sheet.rows.length ∧ ∀ l, limit = some l → k < l := by
  rw [Store.reachesThreshold_iff (make_values p sheet), List.length_map]

theorem readAll_error_of_materialize {t : Target} {q : Query t} {headers : Headers}
    {limit : Option Nat} {cursor : Store.Cursor} {fault : Fault}
    {left : Limited (Store.Cursor × Store)}
    (h : materialize t headers q.columns w.settings.trimText ⟨(cursor, s), limit⟩ =
      .error fault left) : w.readAll q headers limit cursor s = .error fault left.source.2 := by
  unfold readAll
  dsimp only
  rw [h]

section Reading

variable {p : Projection} {k : Nat} {limit : Option Nat}

theorem readAll_of_reaches (hs : s.closed = false)
    (h : k ≤ sheet.rows.length ∧ ∀ l, limit = some l → k < l) :
    w.readAll q (p.headers sheet.columns) limit
        (⟨sheet.rows.map (p.values sheet.columns), 0, some k⟩ : Store.Cursor) s =
      .error (Store.closedAfter k) s.close := by
  have hreaches := (reachesThreshold_values (p := p)).mpr h
  obtain ⟨c, left, hcollect⟩ := Store.collect_of_reaches hs hreaches
  have hread : materialize .rows (p.headers sheet.columns) q.columns w.settings.trimText
      (⟨(⟨sheet.rows.map (p.values sheet.columns), 0, some k⟩, s), limit⟩ :
        Limited (Store.Cursor × Store)) =
      .error (Store.closedAfter k) ⟨(c, s.close), left⟩ := hcollect
  exact readAll_error_of_materialize hread

theorem readAll_of_not_reaches (hs : s.closed = false)
    (h : ¬ (k ≤ sheet.rows.length ∧ ∀ l, limit = some l → k < l)) :
    w.readAll q (p.headers sheet.columns) limit
        (⟨sheet.rows.map (p.values sheet.columns), 0, some k⟩ : Store.Cursor) s =
      .ok ((limited limit sheet.rows).map (p.row sheet)) s := by
  have hnot := mt (reachesThreshold_values (p := p)).mp h
  obtain ⟨c, left, hcollect⟩ := Store.collect_of_not_reaches hs (make_values p sheet) hnot
  rw [limited_map, List.map_map] at hcollect
  have hread : materialize .rows (p.headers sheet.columns) q.columns w.settings.trimText
      (⟨(⟨sheet.rows.map (p.values sheet.columns), 0, some k⟩, s), limit⟩ :
        Limited (Store.Cursor × Store)) =
      .ok ((limited limit sheet.rows).map (p.row sheet)) ⟨(c, s), left⟩ := hcollect
  exact readAll_of_materialize hread

end Reading

end Workbook

/-- An open store on which `closeAfterRows k` was called, and no such call and any other ones after
that, and a query for rows without a type whose worksheet and columns are there. When the
worksheet has `k` rows and the limit is above `k`, the query is aborted after `k` rows and the
store is closed; from then on, whatever is called, every query that has a plan fails for want of a
connection. Otherwise the query comes back with as many rows as the limit lets through, or for
want of a first row not at all, and the store is open. -/
theorem execute_threshold {w : Workbook} (hw : w.Opened) {k : Nat} {before s : Store}
    (hk : (before.closeAfterRows k).Later (fun a => ¬ a.SetsThreshold) s) (hs : s.closed = false)
    {q : Query .rows} {tr : Translation} (h : w.translate q = .ok tr)
    (hdynamic : tr.selection.element.isDynamic = true) {sheet : Sheet}
    (hresolves : s.Resolves w.file.path tr.statement sheet) :
    let limit := tr.selection.limit
    let kept : Store := { s with executed := s.executed ++ [tr.statement] }
    let rows := (limited limit sheet.rows).map (tr.selection.projection.row sheet)
    let reaches := k ≤ sheet.rows.length ∧ ∀ l, limit = some l → k < l
    (reaches →
      w.execute q s =
          .error (.aborted ("connection closed after " ++ toString k ++ " rows")) kept.close ∧
        ∀ later, kept.close.Later (fun _ => True) later → later.closed = true ∧
          ∀ (w' : Workbook) (t' : Target) (q' : Query t') (tr' : Translation),
            w'.translate q' = .ok tr' →
            tr'.selection.element.isDynamic = t'.element.isDynamic →
            w'.execute q' later = .error (.connection "driver has been closed") later) ∧
    (¬ reaches →
      w.execute q s =
          (if rows.isEmpty ∧ tr.selection.cardinality = .first then .error .noRows kept
            else .ok rows kept) ∧
        rows.length = min (limit.getD sheet.rows.length) sheet.rows.length ∧
        kept.closed = false) := by
  intro limit kept rows reaches
  have hplan := Workbook.plan_of_translate h hdynamic
  have hkept : kept.closed = false := hs
  have hthreshold : s.abortAfter = some k := by
    rw [hk.abortAfter, Store.abortAfter_closeAfterRows]
  obtain ⟨hconnect, hexecute⟩ := Workbook.stages_of_resolves hw hs hthreshold h hresolves
  constructor
  · intro hreaches
    refine ⟨?_, fun later hlater => ?_⟩
    · exact Workbook.execute_of_read_error hplan hconnect hexecute
        (Workbook.readAll_of_reaches hkept hreaches)
    · have hclosed : later.closed = true := hlater.closed rfl
      refine ⟨hclosed, fun w' t' q' tr' htranslate helement => ?_⟩
      exact Workbook.execute_of_closed (Workbook.plan_of_translate htranslate helement) hclosed
  · intro hnot
    refine ⟨?_, ?_, hkept⟩
    · exact Workbook.execute_of_plan hplan hconnect hexecute
        (Workbook.readAll_of_not_reaches hkept hnot)
    · rw [List.length_map, length_limited]

/-- A store that is to close after seven rows, then after two, and then gets a worksheet of two
rows: reading them all is cut off, and stays so when a worksheet and a threshold are put in later;
with a limit of as many rows the limit is there first. -/
theorem execute_threshold_last_row :
    let w : Workbook := ⟨⟨⟨"a.xlsx"⟩, .excel2007⟩, {}, .ofFormat .excel2007⟩
    let sheet : Sheet := ⟨["n"], [[.integer 1], [.integer 2]]⟩
    let before : Store := Store.closeAfterRows 7 {}
    let s := (before.closeAfterRows 2).addSheet ⟨"a.xlsx"⟩ "S" sheet
    let every : Query .rows := Query.ofWorksheet .rows "S"
    let two := every.take 2
    let closed : Store := { s with executed := [⟨"SELECT * FROM [S$]", []⟩], closed := true }
    let later := (closed.closeAfterRows 5).addSheet ⟨"a.xlsx"⟩ "S" sheet
    w.execute every s = .error (.aborted "connection closed after 2 rows") closed ∧
      w.execute two later = .error (.connection "driver has been closed") later ∧
      w.execute two s =
        .ok [⟨[⟨.integer 1⟩], [("n", 0)]⟩, ⟨[⟨.integer 2⟩], [("n", 0)]⟩]
          { s with executed := [⟨"SELECT TOP 2 * FROM [S$]", []⟩] } := by
  intro w sheet before s every two closed later
  let trEvery : Translation := ⟨{ worksheet := "S" }, ⟨"SELECT * FROM [S$]", []⟩⟩
  let trTwo : Translation :=
    ⟨{ worksheet := "S", limit := some 2 }, ⟨"SELECT TOP 2 * FROM [S$]", []⟩⟩
  have hpath : Workbook.ofPath ⟨"a.xlsx"⟩ = .ok w := eq_ok_of_toOption (by decide +kernel)
  have hevery : w.translate every = .ok trEvery := eq_ok_of_toOption (by decide +kernel)
  have htwo : w.translate two = .ok trTwo := eq_ok_of_toOption (by decide +kernel)
  have hsheet : s.sheet? w.file.path (SelectTarget.stripSuffix "S") = some sheet := by
    decide +kernel
  have hd : w.dialect ∈ Dialect.profiles := by decide
  have hresolvesEvery : s.Resolves w.file.path trEvery.statement sheet :=
    (Store.resolves_iff hd (translate_eq_ok.mp hevery).2).mpr ⟨hsheet, trivial⟩
  have hresolvesTwo : s.Resolves w.file.path trTwo.statement sheet :=
    (Store.resolves_iff hd (translate_eq_ok.mp htwo).2).mpr ⟨hsheet, trivial⟩
  have hk : (before.closeAfterRows 2).Later (fun a => ¬ a.SetsThreshold) s :=
    .call (w := { store := before.closeAfterRows 2 }) (a := .addSheet ⟨"a.xlsx"⟩ "S" sheet) .now
      not_false rfl
  obtain ⟨hcut, -⟩ := execute_threshold (.ofPath hpath) hk rfl hevery rfl hresolvesEvery
  obtain ⟨-, hread⟩ := execute_threshold (.ofPath hpath) hk rfl htwo rfl hresolvesTwo
  obtain ⟨haborted, hlater⟩ := hcut ⟨by decide, nofun⟩
  have hcalls : closed.Later (fun _ => True) later := by
    have hthreshold : closed.Later (fun _ => True) (closed.closeAfterRows 5) :=
      .call (w := { store := closed }) (a := .closeAfterRows 5) .now trivial rfl
    exact .call (w := { store := closed.closeAfterRows 5 })
      (a := .addSheet ⟨"a.xlsx"⟩ "S" sheet) hthreshold trivial rfl
  refine ⟨haborted, (hlater later hcalls).2 w .rows two trTwo htwo rfl, ?_⟩
  have hnot : ¬ (2 ≤ sheet.rows.length ∧ ∀ l, trTwo.selection.limit = some l → 2 < l) :=
    fun hreaches => absurd (hreaches.2 2 rfl) (Nat.lt_irrefl 2)
  exact (hread hnot).1

end WorkbookQuery
