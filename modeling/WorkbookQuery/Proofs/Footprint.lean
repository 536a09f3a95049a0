/-
  What a run leaves behind in the store. A query that has no plan, or finds the store closed or
  its file missing, leaves the store as it was. Every other query leaves one more statement in
  the history, its own, whatever becomes of the statement and of the rows; the worksheets and
  the threshold stay, and the store is closed exactly when the reading reaches the threshold
  (`execute_footprint`).
-/
import WorkbookQuery.Proofs.Execution
import WorkbookQuery.Proofs.Interleaving
import WorkbookQuery.Proofs.ResultType

namespace WorkbookQuery

/-- The state after a run, whether it succeeded or not. -/
def stateAfter {σ α : Type} : EStateM.Result Fault σ α → σ
  | .ok _ s => s
  | .error _ s => s

/-! ## Reading a cursor -/

theorem RowSource.stateAfter_prepend {σ α : Type} (a : α)
    (r : EStateM.Result Fault σ (List α)) : stateAfter (prepend a r) = stateAfter r := by
  cases r <;> rfl

/-- What is made of a row does not touch the source. -/
theorem RowSource.stateAfter_collect_of_row {σ α : Type} [RowSource σ]
    {make : Nat → RawRow → Except Fault α} {n : Nat} {s t : σ} {row : RawRow} {a : α}
    (h : next s = .ok (some row) t) (hmake : make n row = .ok a) :
    stateAfter (collect make n s) = stateAfter (collect make (n + 1) t) := by
  rw [collect_of_row h hmake, stateAfter_prepend]

namespace Store

variable {α : Type} {make : Nat → RawRow → Except Fault α} {s : Store} {limit : Option Nat}
  {n served : Nat} {threshold : Option Nat} {row : RawRow} {rest : List RawRow}

/-- Reading a cursor comes to the point where the cursor closes its store: the rows before it
are there, the limit lets all of them through and one more, and something is made of each. The
first row is number `n`. -/
def Cursor.ReachesThreshold (c : Cursor) (make : Nat → RawRow → Except Fault α) (n : Nat)
    (limit : Option Nat) : Prop :=
  ∃ k, c.abortAfter = some (c.served + k) ∧ k ≤ c.rows.length ∧
    (∀ l, limit = some l → k < l) ∧
    ∀ i row, i < k → c.rows[i]? = some row → ∃ a, make (n + i) row = .ok a

/-- Short of the threshold the question moves on to the rest of the rows. -/
theorem reachesThreshold_cons (hthreshold : threshold ≠ some served) (hlimit : limit ≠ some 0)
    {a : α} (hmake : make n row = .ok a) :
    Cursor.ReachesThreshold ⟨row :: rest, served, threshold⟩ make n limit ↔
      Cursor.ReachesThreshold ⟨rest, served + 1, threshold⟩ make (n + 1)
        (limit.map (· - 1)) := by
  have hserved : ∀ k, served + (k + 1) = served + 1 + k := by omega
  have hnumber : ∀ i, n + (i + 1) = n + 1 + i := by omega
  constructor
  · rintro ⟨k, hk, hlength, hbound, hmade⟩
    cases k with
    | zero => exact absurd hk hthreshold
    | succ k =>
      refine ⟨k, ?_, Nat.le_of_succ_le_succ hlength, ?_, ?_⟩
      · rw [hk]
        exact congrArg some (hserved k)
      · intro l hl
        obtain ⟨l', rfl, rfl⟩ := Option.map_eq_some_iff.mp hl
        have hl' : k + 1 < l' := hbound l' rfl
        omega
      · intro i r hi hr
        rw [← hnumber]
        exact hmade (i + 1) r (Nat.succ_lt_succ hi) hr
  · rintro ⟨k, hk, hlength, hbound, hmade⟩
    refine ⟨k + 1, ?_, Nat.succ_le_succ hlength, ?_, ?_⟩
    · rw [hk]
      exact congrArg some (hserved k).symm
    · rintro l rfl
      have hl : k < l - 1 := hbound (l - 1) rfl
      omega
    · intro i r hi hr
      cases i with
      | zero =>
        cases hr
        exact ⟨a, hmake⟩
      | succ i =>
        rw [hnumber]
        exact hmade i r (Nat.lt_of_succ_lt_succ hi) hr

/-- The store after every row of a cursor was read and made into something. -/
def afterReading (make : Nat → RawRow → Except Fault α) (n : Nat) (c : Cursor)
    (limit : Option Nat) (s : Store) : Store :=
  (stateAfter (RowSource.collect make n (⟨(c, s), limit⟩ : Limited (Cursor × Store)))).source.2

/-- The store is closed when the threshold was reached, and is otherwise as it was. -/
def ClosedAtThreshold (make : Nat → RawRow → Except Fault α) (n : Nat) (c : Cursor)
    (limit : Option Nat) (s : Store) : Prop :=
  (c.ReachesThreshold make n limit ∧ afterReading make n c limit s = s.close) ∨
    (¬ c.ReachesThreshold make n limit ∧ afterReading make n c limit s = s)

/-- At the limit the cursor is not asked. -/
theorem closedAtThreshold_of_limit (c : Cursor) : ClosedAtThreshold make n c (some 0) s := by
  right
  constructor
  · rintro ⟨k, -, -, hbound, -⟩
    exact absurd (hbound 0 rfl) (Nat.not_lt_zero k)
  · rw [afterReading, RowSource.collect_limited_zero]
    rfl

/-- At the threshold the store is closed, before it is seen whether there are rows left. -/
theorem closedAtThreshold_of_threshold {c : Cursor} (hlimit : limit ≠ some 0)
    (hthreshold : c.abortAfter = some c.served) : ClosedAtThreshold make n c limit s := by
  left
  constructor
  · refine ⟨0, hthreshold, Nat.zero_le _, ?_, ?_⟩
    · rintro l rfl
      exact Nat.pos_of_ne_zero fun hl => hlimit (congrArg some hl)
    · intro i _ hi
      exact absurd hi (Nat.not_lt_zero i)
  · have hclosed : (beforeRead c s).closed = true := by
      rw [beforeRead, if_pos hthreshold]
      rfl
    obtain ⟨reason, hread⟩ := read_of_closed hclosed
    have hnext : RowSource.next (c, s) = .error (.aborted reason) (c, s.close) := hread
    rw [afterReading, RowSource.collect_of_error (RowSource.next_limited_error hlimit hnext)]
    rfl

/-- What is left to look at is a cursor short of its limit and of its threshold. -/
theorem closedAtThreshold_of_short {c : Cursor}
    (h : limit ≠ some 0 → c.abortAfter ≠ some c.served → ClosedAtThreshold make n c limit s) :
    ClosedAtThreshold make n c limit s := by
  by_cases hlimit : limit = some 0
  · rw [hlimit]
    exact closedAtThreshold_of_limit c
  by_cases hthreshold : c.abortAfter = some c.served
  · exact closedAtThreshold_of_threshold hlimit hthreshold
  exact h hlimit hthreshold

/-- A store that was open before its cursor was read. By induction on the rows: a cursor short
of its limit and of its threshold has no row left, or it serves one. -/
theorem closedAtThreshold (hs : s.closed = false) (rows : List RawRow) (served n : Nat)
    (limit : Option Nat) : ClosedAtThreshold make n ⟨rows, served, threshold⟩ limit s := by
  induction rows generalizing served n limit with
  | nil =>
    apply closedAtThreshold_of_short
    intro hlimit hthreshold
    let c : Cursor := ⟨[], served, threshold⟩
    have hopen : (beforeRead c s).closed = false := by
      rw [beforeRead, if_neg hthreshold, hs]
    have hnext : RowSource.next (c, s) = .ok none (c, s) := (read_of_open hopen).2.1 rfl
    right
    constructor
    · rintro ⟨k, hk, hlength, -⟩
      obtain rfl : k = 0 := Nat.le_zero.mp hlength
      exact hthreshold hk
    · rw [afterReading, RowSource.collect_of_end (RowSource.next_limited hlimit hnext)]
      rfl
  | cons row rows ih =>
    apply closedAtThreshold_of_short
    intro hlimit hthreshold
    let c : Cursor := ⟨row :: rows, served, threshold⟩
    let c' : Cursor := ⟨rows, served + 1, threshold⟩
    have hopen : (beforeRead c s).closed = false := by
      rw [beforeRead, if_neg hthreshold, hs]
    have hnext : RowSource.next (c, s) = .ok (some row) (c', s) :=
      (read_of_open hopen).2.2 row rows rfl
    have hlimited := RowSource.next_limited hlimit hnext
    cases hmake : make n row with
    | error e =>
      right
      constructor
      · rintro ⟨k, hk, -, -, hmade⟩
        cases k with
        | zero => exact hthreshold hk
        | succ k =>
          obtain ⟨a, ha⟩ := hmade 0 row (Nat.succ_pos k) rfl
          rw [Nat.add_zero, hmake] at ha
          cases ha
      · rw [afterReading, RowSource.collect_of_make_error hlimited hmake]
        rfl
    | ok a =>
      have hafter : afterReading make n c limit s =
          afterReading make (n + 1) c' (limit.map (· - 1)) s := by
        rw [afterReading, RowSource.stateAfter_collect_of_row hlimited hmake, afterReading]
      have hreach : c.ReachesThreshold make n limit ↔
          c'.ReachesThreshold make (n + 1) (limit.map (· - 1)) :=
        reachesThreshold_cons hthreshold hlimit hmake
      rw [ClosedAtThreshold, hafter, hreach]
      exact ih (served + 1) (n + 1) (limit.map (· - 1))

end Store

/-! ## Running a query -/

namespace Workbook

variable {t : Target} {w : Workbook} {q : Query t} {s : Store} {tr : Translation}

theorem stateAfter_readAll (headers : Headers) (limit : Option Nat) (cursor : Store.Cursor) :
    stateAfter (w.readAll q headers limit cursor s) =
      Store.afterReading (t.make headers q.columns w.settings.trimText) 1 cursor limit s := by
  unfold readAll
  dsimp only
  split <;> next hread => rw [Store.afterReading, ← materialize, hread]; rfl

section Stages

variable {δ : Type} [Driver δ] {s s₁ s₂ : δ}

theorem execute_of_connect_error (hplan : w.plan q = .ok tr) {fault : Fault}
    (hconnect : Driver.connect w.file w.dialect s = .error fault s₁) :
    w.execute q s = .error fault s₁ := by
  simp only [execute_eq_stages hplan, hconnect]

theorem execute_of_execute_error (hplan : w.plan q = .ok tr)
    {connection : Driver.Connection δ} {fault : Fault}
    (hconnect : Driver.connect w.file w.dialect s = .ok connection s₁)
    (hexecute : Driver.execute connection tr.statement s₁ = .error fault s₂) :
    w.execute q s = .error fault s₂ := by
  simp only [execute_eq_stages hplan, hconnect, hexecute]

/-- Once a cursor was read, nothing more happens to the state, with items to return or not. -/
theorem stateAfter_execute (hplan : w.plan q = .ok tr)
    {connection : Driver.Connection δ} {headers : Headers} {cursor : Driver.Cursor δ}
    (hconnect : Driver.connect w.file w.dialect s = .ok connection s₁)
    (hexecute : Driver.execute connection tr.statement s₁ = .ok (headers, cursor) s₂) :
    stateAfter (w.execute q s) =
      stateAfter (w.readAll q headers tr.selection.limit cursor s₂) := by
  simp only [execute_eq_stages hplan, hconnect, hexecute]
  cases w.readAll q headers tr.selection.limit cursor s₂ with
  | error e s₃ => rfl
  | ok items s₃ =>
    dsimp only
    split <;> rfl

end Stages

/-- The statement of a query has a result on the store, and reading it as the query's rows
reaches the store's threshold. -/
def ReachesThreshold (w : Workbook) (q : Query t) (tr : Translation) (s : Store) : Prop :=
  ∃ headers cursor, s.answer w.file.path tr.statement = .ok (headers, cursor) ∧
    cursor.ReachesThreshold (t.make headers q.columns w.settings.trimText) 1 tr.selection.limit

theorem plan_eq_ok : w.plan q = .ok tr ↔
    w.translate q = .ok tr ∧ tr.selection.element.isDynamic = t.element.isDynamic := by
  constructor
  · intro h
    obtain ⟨tr', htranslate, h⟩ := bind_eq_ok.mp h
    dsimp only at h
    split at h
    · next helement =>
      cases h
      exact ⟨htranslate, helement⟩
    · cases h
  · rintro ⟨htranslate, helement⟩
    exact plan_of_translate htranslate helement

end Workbook

/-! ## The store's part -/

namespace Store

variable {s : Store} {file : WorkbookFile} {d : Dialect}

theorem connect_of_unreachable
    (h : s.closed = true ∨ ∀ stored ∈ s.sheets, stored.path.same file.path = false) :
    ∃ fault, connect file d s = .error fault s := by
  unfold connect
  split
  · exact ⟨_, rfl⟩
  · next hclosed =>
    have hfile : s.hasFile file.path = false := by
      rw [hasFile, List.any_eq_false]
      simpa using h.resolve_left hclosed
    rw [if_neg (Bool.eq_false_iff.mp hfile)]
    exact ⟨_, rfl⟩

end Store

/-- A run that has a plan, an open store and a file there leaves its statement, and closes the
store when its reading reaches the threshold. -/
theorem Workbook.stateAfter_of_file {t : Target} {w : Workbook} {q : Query t} {s : Store}
    {tr : Translation} (hplan : w.plan q = .ok tr) (hs : s.closed = false)
    (hfile : ∃ stored ∈ s.sheets, stored.path.same w.file.path = true) :
    let kept : Store := { s with executed := s.executed ++ [tr.statement] }
    (w.ReachesThreshold q tr s ∧ stateAfter (w.execute q s) = kept.close) ∨
      (¬ w.ReachesThreshold q tr s ∧ stateAfter (w.execute q s) = kept) := by
  intro kept
  have hconnect : Driver.connect w.file w.dialect s = .ok ⟨w.file.path⟩ s :=
    Store.connect_of_file hs (List.any_eq_true.mpr hfile)
  have hexecute := Store.execute_of_open hs w.file.path tr.statement
  cases hanswer : s.answer w.file.path tr.statement with
  | error fault =>
    right
    rw [hanswer] at hexecute
    constructor
    · rintro ⟨headers, cursor, hresult, -⟩
      rw [hanswer] at hresult
      cases hresult
    · rw [execute_of_execute_error hplan hconnect hexecute]
      rfl
  | ok result =>
    obtain ⟨headers, cursor⟩ := result
    rw [hanswer] at hexecute
    have hkept : kept.closed = false := hs
    have hstate : stateAfter (w.execute q s) = Store.afterReading
        (t.make headers q.columns w.settings.trimText) 1 cursor tr.selection.limit kept := by
      rw [stateAfter_execute hplan hconnect hexecute, stateAfter_readAll]
    have hreach : w.ReachesThreshold q tr s ↔ cursor.ReachesThreshold
        (t.make headers q.columns w.settings.trimText) 1 tr.selection.limit := by
      constructor
      · rintro ⟨headers', cursor', hresult, h⟩
        rw [hanswer] at hresult
        cases hresult
        exact h
      · intro h
        exact ⟨headers, cursor, hanswer, h⟩
    rw [hstate, hreach]
    exact Store.closedAtThreshold hkept cursor.rows cursor.served 1 tr.selection.limit

/-- What a query leaves behind in a store. Without a plan, on a closed store and without a
worksheet under the workbook's path it fails, and leaves the store as it was. In every other
case it leaves one more statement, that of its translation, the same worksheets and the same
threshold, and the store is closed when the reading reached the threshold and only then. -/
theorem execute_footprint {t : Target} (w : Workbook) (q : Query t) (s : Store) :
    ((∃ fault, w.translate q = .error fault) ∨
        (∃ tr, w.translate q = .ok tr ∧
          tr.selection.element.isDynamic ≠ t.element.isDynamic) ∨
        s.closed = true ∨ (∀ stored ∈ s.sheets, stored.path.same w.file.path = false) →
      ∃ fault, w.execute q s = .error fault s) ∧
    ∀ tr, w.translate q = .ok tr → tr.selection.element.isDynamic = t.element.isDynamic →
      s.closed = false → (∃ stored ∈ s.sheets, stored.path.same w.file.path = true) →
      let s' := stateAfter (w.execute q s)
      s'.executed = s.executed ++ [tr.statement] ∧ s'.sheets = s.sheets ∧
        s'.abortAfter = s.abortAfter ∧
        (s'.closed = true ↔ w.ReachesThreshold q tr s) := by
  constructor
  · intro h
    cases hplan : w.plan q with
    | error fault => exact ⟨fault, Workbook.execute_of_plan_error hplan s⟩
    | ok tr =>
      obtain ⟨htranslate, helement⟩ := Workbook.plan_eq_ok.mp hplan
      rcases h with ⟨fault, hfault⟩ | ⟨tr', htr', hmismatch⟩ | hunreachable
      · rw [htranslate] at hfault
        cases hfault
      · rw [htranslate] at htr'
        cases htr'
        exact absurd helement hmismatch
      · obtain ⟨fault, hconnect⟩ := Store.connect_of_unreachable hunreachable
        exact ⟨fault, Workbook.execute_of_connect_error hplan hconnect⟩
  · intro tr htranslate helement hs hfile s'
    have hplan := Workbook.plan_of_translate htranslate helement
    rcases Workbook.stateAfter_of_file hplan hs hfile with ⟨hreach, hstate⟩ | ⟨hnot, hstate⟩
    · have hs' : s' = _ := hstate
      rw [hs']
      exact ⟨rfl, rfl, rfl, fun _ => hreach, fun _ => rfl⟩
    · have hs' : s' = _ := hstate
      rw [hs']
      refine ⟨rfl, rfl, rfl, fun hclosed => ?_, fun hreach => absurd hreach hnot⟩
      exact absurd (hs.symm.trans hclosed) Bool.false_ne_true

/-- A store that closes after one row: all rows of a worksheet are cut off, the first one is not,
and a workbook that is not there leaves nothing. -/
theorem execute_footprint_threshold :
    let w : Workbook := ⟨⟨⟨"a.xlsx"⟩, .excel2007⟩, {}, .ofFormat .excel2007⟩
    let elsewhere : Workbook := ⟨⟨⟨"b.xlsx"⟩, .excel2007⟩, {}, .ofFormat .excel2007⟩
    let sheet : Sheet := ⟨["n"], [[.integer 1], [.integer 2]]⟩
    let s : Store := { sheets := [⟨⟨"a.xlsx"⟩, "S", sheet⟩], abortAfter := some 1 }
    let every : Query .rows := Query.ofWorksheet .rows "S"
    let one := every.take 1
    (∃ fault, elsewhere.execute every s = .error fault s) ∧
      (stateAfter (w.execute every s)).closed = true ∧
      (stateAfter (w.execute every s)).executed = [⟨"SELECT * FROM [S$]", []⟩] ∧
      (stateAfter (w.execute one s)).closed = false ∧
      (stateAfter (w.execute one s)).executed = [⟨"SELECT TOP 1 * FROM [S$]", []⟩] := by
  intro w elsewhere sheet s every one
  let trEvery : Translation := ⟨{ worksheet := "S" }, ⟨"SELECT * FROM [S$]", []⟩⟩
  let trOne : Translation :=
    ⟨{ worksheet := "S", limit := some 1 }, ⟨"SELECT TOP 1 * FROM [S$]", []⟩⟩
  have hevery : w.translate every = .ok trEvery := eq_ok_of_toOption (by decide +kernel)
  have hone : w.translate one = .ok trOne := eq_ok_of_toOption (by decide +kernel)
  have hfile : ∃ stored ∈ s.sheets, stored.path.same w.file.path = true :=
    ⟨_, List.mem_cons_self, by decide⟩
  have hmissing : ∀ stored ∈ s.sheets, stored.path.same elsewhere.file.path = false := by decide
  let result : Headers × Store.Cursor := (⟨["n"]⟩, ⟨sheet.rows, 0, some 1⟩)
  have hanswerEvery : s.answer w.file.path trEvery.statement = .ok result :=
    eq_ok_of_toOption (by decide +kernel)
  have hanswerOne : s.answer w.file.path trOne.statement = .ok result :=
    eq_ok_of_toOption (by decide +kernel)
  obtain ⟨hkept, -, -, hclosed⟩ := (execute_footprint w every s).2 trEvery hevery rfl rfl hfile
  obtain ⟨hkeptOne, -, -, hclosedOne⟩ := (execute_footprint w one s).2 trOne hone rfl rfl hfile
  refine ⟨(execute_footprint elsewhere every s).1 (.inr (.inr (.inr hmissing))),
    hclosed.mpr ?_, hkept, ?_, hkeptOne⟩
  · refine ⟨_, _, hanswerEvery, 1, rfl, by decide, nofun, ?_⟩
    rintro i row hi hrow
    obtain rfl : i = 0 := by omega
    cases hrow
    exact ⟨_, rfl⟩
  · rw [Bool.eq_false_iff]
    intro hclosed
    obtain ⟨headers, cursor, hanswer, k, hk, -, hlimit, -⟩ := hclosedOne.mp hclosed
    have hresult : result = (headers, cursor) := Except.ok.inj (hanswerOne.symm.trans hanswer)
    have hcursor : (⟨sheet.rows, 0, some 1⟩ : Store.Cursor) = cursor := congrArg Prod.snd hresult
    rw [← hcursor] at hk
    have hone : 1 = 0 + k := Option.some.inj hk
    have hlt : k < 1 := hlimit 1 rfl
    omega

end WorkbookQuery
