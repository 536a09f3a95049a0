/-
  Limits. Whatever serves a cursor, and however long the cursor may go on, a query with a limit
  reads it at most as often as its limit says, and comes to what is made of that many first items
  alone (`limit_truncates`). Nothing that stands behind them is ever seen, whether it is a row
  that is too short, a value that does not fit or a failure.

  Cursors of drivers come to an end, and those of a `Server` need not. Queries run on a server
  through a `Metered` one, which counts down the reads that are left.
-/
import WorkbookQuery.Proofs.Footprint

namespace WorkbookQuery

/-! ## Results -/

/-- What a run comes to, without the state that it leaves. -/
def outcome {σ α : Type} : EStateM.Result Fault σ α → Except Fault α
  | .ok a _ => .ok a
  | .error e _ => .error e

/-- A result under another view of its state. -/
def mapState {σ τ α : Type} (f : σ → τ) : EStateM.Result Fault σ α → EStateM.Result Fault τ α
  | .ok a s => .ok a (f s)
  | .error e s => .error e (f s)

section MapState

variable {σ τ υ α : Type} (f : σ → τ)

@[simp] theorem mapState_ok (a : α) (s : σ) : mapState f (.ok a s) = .ok a (f s) := rfl

@[simp] theorem mapState_error (e : Fault) (s : σ) :
    mapState f (.error e s : EStateM.Result Fault σ α) = .error e (f s) := rfl

theorem mapState_mapState (g : τ → υ) (r : EStateM.Result Fault σ α) :
    mapState g (mapState f r) = mapState (g ∘ f) r := by
  cases r <;> rfl

theorem mapState_eq_ok {f : σ → τ} {r : EStateM.Result Fault σ α} {a : α} {s : τ} :
    mapState f r = .ok a s ↔ ∃ t, r = .ok a t ∧ f t = s := by
  cases r with
  | ok b t => simp [and_assoc]
  | error e t => simp

theorem outcome_mapState (r : EStateM.Result Fault σ α) : outcome (mapState f r) = outcome r := by
  cases r <;> rfl

theorem stateAfter_mapState (r : EStateM.Result Fault σ α) :
    stateAfter (mapState f r) = f (stateAfter r) := by
  cases r <;> rfl

end MapState

/-- What the first `n` reads yield, or as many as there are before the end. Reading goes on after
a failure. -/
def firstItems {σ : Type} (next : EStateM Fault σ (Option RawRow)) :
    Nat → σ → List (Except Fault RawRow)
  | 0, _ => []
  | n + 1, s =>
    match next s with
    | .ok none _ => []
    | .ok (some row) t => .ok row :: firstItems next n t
    | .error e t => .error e :: firstItems next n t

/-! ## Reading a source up to a limit -/

namespace RowSource

variable {σ α : Type} [RowSource σ] {make : Nat → RawRow → Except Fault α}

section Prepend

variable {τ υ : Type} (a : α) (r : EStateM.Result Fault τ (List α))

theorem outcome_prepend : outcome (prepend a r) = (outcome r).map (a :: ·) := by
  cases r <;> rfl

theorem mapState_prepend (f : τ → υ) : mapState f (prepend a r) = prepend a (mapState f r) := by
  cases r <;> rfl

end Prepend

/-- Reading takes one read, and goes on if that yields a row of which something can be made. -/
theorem collect_eq (k : Nat) (s : σ) : collect make k s =
    match next s with
    | .error e t => .error e t
    | .ok none t => .ok [] t
    | .ok (some row) t =>
      match make k row with
      | .error e => .error e t
      | .ok a => prepend a (collect make (k + 1) t) := by
  cases hnext : next s with
  | error e t => exact collect_of_error hnext
  | ok row t =>
    cases row with
    | none => exact collect_of_end hnext
    | some row =>
      cases hmake : make k row with
      | error e => simp only [hmake, collect_of_make_error hnext hmake]
      | ok a => simp only [hmake, collect_of_row hnext hmake]

theorem collect_cons (k : Nat) (row : RawRow) (items : List (Except Fault RawRow)) :
    collect make k (.ok row :: items) =
      match make k row with
      | .error e => .error e items
      | .ok a => prepend a (collect make (k + 1) items) :=
  collect_eq k (.ok row :: items : List (Except Fault RawRow))

/-- Short of its limit a source is read once, and the limit counted down. -/
theorem collect_limited_eq {limit : Option Nat} (hlimit : limit ≠ some 0) (k : Nat) (s : σ) :
    collect make k (⟨s, limit⟩ : Limited σ) =
    match next s with
    | .error e t => .error e ⟨t, limit.map (· - 1)⟩
    | .ok none t => .ok [] ⟨t, limit.map (· - 1)⟩
    | .ok (some row) t =>
      match make k row with
      | .error e => .error e ⟨t, limit.map (· - 1)⟩
      | .ok a => prepend a (collect make (k + 1) ⟨t, limit.map (· - 1)⟩) := by
  rw [collect_eq]
  cases hnext : next s with
  | error e t => rw [next_limited_error hlimit hnext]
  | ok row t =>
    rw [next_limited hlimit hnext]
    cases row <;> rfl

theorem collect_limited_succ (k n : Nat) (s : σ) :
    collect make k (⟨s, some (n + 1)⟩ : Limited σ) =
    match next s with
    | .error e t => .error e ⟨t, some n⟩
    | .ok none t => .ok [] ⟨t, some n⟩
    | .ok (some row) t =>
      match make k row with
      | .error e => .error e ⟨t, some n⟩
      | .ok a => prepend a (collect make (k + 1) ⟨t, some n⟩) :=
  collect_limited_eq (by simp) k s

/-- Up to a limit a source comes to what its first items come to. -/
theorem outcome_collect_limited (n k : Nat) (s : σ) :
    outcome (collect make k (⟨s, some n⟩ : Limited σ)) =
      outcome (collect make k (firstItems next n s)) := by
  induction n generalizing k s with
  | zero => rw [collect_limited_zero, firstItems, collect_of_end rfl]; rfl
  | succ n ih =>
    rw [collect_limited_succ, firstItems]
    cases next s with
    | error e t => rw [collect_of_error rfl]; rfl
    | ok row t =>
      cases row with
      | none => rw [collect_of_end rfl]; rfl
      | some row =>
        dsimp only
        rw [collect_cons]
        cases make k row with
        | error e => rfl
        | ok a =>
          dsimp only
          rw [outcome_prepend, ih, ← outcome_prepend]

/-- A source that only counts down the reads of another one comes to the same as the other one,
as long as it does not run out of reads. By induction on the reads that are left. -/
theorem mapState_collect_limited {τ : Type} [RowSource τ] {view : Nat → σ → τ} {forget : τ → σ}
    (hnext : ∀ left s, next (view (left + 1) s) = mapState (view left) (next s))
    (hforget : ∀ left s, forget (view left s) = s) {limit : Option Nat} {left : Nat} {s : σ}
    (h : limit.getD (remaining s + 1) ≤ left) (k : Nat) :
    mapState (fun l => ⟨forget l.source, l.left⟩)
        (collect make k (⟨view left s, limit⟩ : Limited τ)) =
      collect make k (⟨s, limit⟩ : Limited σ) := by
  induction left generalizing limit k s with
  | zero =>
    cases limit with
    | none => exact absurd h (Nat.not_succ_le_zero _)
    | some n =>
      obtain rfl : n = 0 := Nat.le_zero.mp h
      rw [collect_limited_zero, collect_limited_zero, mapState_ok, hforget]
  | succ left ih =>
    by_cases hlimit : limit = some 0
    · rw [hlimit, collect_limited_zero, collect_limited_zero, mapState_ok, hforget]
    rw [collect_limited_eq hlimit, collect_limited_eq hlimit, hnext]
    cases hread : next s with
    | error e t => simp only [mapState_error, hforget]
    | ok row t =>
      cases row with
      | none => simp only [mapState_ok, hforget]
      | some row =>
        have hleft : (limit.map (· - 1)).getD (remaining t + 1) ≤ left := by
          cases limit with
          | none =>
            have hless := remaining_lt hread
            simp only [Option.getD_none, Option.map_none] at h ⊢
            omega
          | some n => exact Nat.sub_le_of_le_add h
        simp only [mapState_ok]
        cases make k row with
        | error e => simp only [mapState_error, hforget]
        | ok a =>
          dsimp only
          rw [mapState_prepend, ih hleft]

end RowSource

/-! ## Servers -/

/-- What opens files and runs statements. Its cursors may go on for ever. -/
class Server (δ : Type) where
  Connection : Type
  Cursor : Type
  connect (file : WorkbookFile) (dialect : Dialect) : EStateM Fault δ Connection
  execute (connection : Connection) (statement : Statement) : EStateM Fault δ (Headers × Cursor)
  read : EStateM Fault (Cursor × δ) (Option RawRow)

/-- A driver is a server whose cursors come to an end. -/
@[reducible] instance Driver.toServer {δ : Type} [Driver δ] : Server δ where
  Connection := Driver.Connection δ
  Cursor := Driver.Cursor δ
  connect := Driver.connect
  execute := Driver.execute
  read := RowSource.next

/-- A server, and how often its cursors may still be read. -/
structure Metered (δ : Type) where
  state : δ
  left : Nat

namespace Metered

variable {δ : Type}

/-- What does not read leaves the count as it is. -/
def lift {α : Type} (f : EStateM Fault δ α) : EStateM Fault (Metered δ) α := fun s =>
  mapState (⟨·, s.left⟩) (f s.state)

variable [Server δ]

/-- Every read counts, whatever it yields. When none is left the server is not asked. -/
instance : RowSource (Server.Cursor δ × Metered δ) where
  next := fun (c, s) =>
    match s.left with
    | 0 => .error (.aborted "no read is left") (c, s)
    | left + 1 =>
      match Server.read (c, s.state) with
      | .ok row (c, t) => .ok row (c, ⟨t, left⟩)
      | .error e (c, t) => .error e (c, ⟨t, left⟩)
  remaining s := s.2.left
  remaining_lt {s t row} h := by
    obtain ⟨c, state, left⟩ := s
    cases left with
    | zero => cases h
    | succ left =>
      dsimp only at h
      split at h
      · cases h
        exact Nat.lt_succ_self left
      · cases h

instance : Driver (Metered δ) where
  Connection := Server.Connection δ
  Cursor := Server.Cursor δ
  connect file dialect := lift (Server.connect file dialect)
  execute connection statement := lift (Server.execute connection statement)
  source := inferInstance

/-- A read that is left is one of the server's. -/
theorem next_succ (c : Server.Cursor δ) (s : δ) (left : Nat) :
    RowSource.next (c, (⟨s, left + 1⟩ : Metered δ)) =
      mapState (fun p : Server.Cursor δ × δ => (p.1, (⟨p.2, left⟩ : Metered δ)))
        (Server.read (c, s)) := by
  dsimp only [RowSource.next]
  cases Server.read (c, s) <;> rfl

/-- As long as reads are left, the first items are those of the server. -/
theorem firstItems_eq {n left : Nat} (h : n ≤ left) (c : Server.Cursor δ) (s : δ) :
    firstItems RowSource.next n (c, (⟨s, left⟩ : Metered δ)) = firstItems Server.read n (c, s) := by
  induction n generalizing left c s with
  | zero => rfl
  | succ n ih =>
    cases left with
    | zero => exact absurd h (Nat.not_succ_le_zero n)
    | succ left =>
      have hn := Nat.le_of_succ_le_succ h
      rw [firstItems, firstItems, next_succ]
      cases Server.read (c, s) with
      | error e p => exact congrArg _ (ih hn p.1 p.2)
      | ok row p =>
        cases row with
        | none => rfl
        | some row => exact congrArg _ (ih hn p.1 p.2)

section Reading

variable {α : Type} {make : Nat → RawRow → Except Fault α}

/-- Up to a limit a cursor is not read more often than the limit says. -/
theorem left_collect_limited (n k left : Nat) (c : Server.Cursor δ) (s : δ) :
    left ≤ (stateAfter (RowSource.collect make k
      (⟨(c, (⟨s, left⟩ : Metered δ)), some n⟩ : Limited _))).source.2.left + n := by
  induction n generalizing k left c s with
  | zero =>
    rw [RowSource.collect_limited_zero]
    exact Nat.le_refl left
  | succ n ih =>
    rw [RowSource.collect_limited_succ]
    cases left with
    | zero => exact Nat.zero_le _
    | succ left =>
      -- one read is spent, whatever comes of it
      have hspent : left + 1 ≤ left + (n + 1) := by omega
      rw [next_succ]
      cases Server.read (c, s) with
      | error e p => exact hspent
      | ok row p =>
        cases row with
        | none => exact hspent
        | some row =>
          simp only [mapState_ok]
          cases make k row with
          | error e => exact hspent
          | ok a =>
            dsimp only
            rw [RowSource.stateAfter_prepend]
            exact Nat.succ_le_succ (ih (k + 1) left p.1 p.2)

/-- When something is made of everything that a cursor yields, the beginning of it is made of
what the first reads yield. -/
theorem outcome_collect_firstItems {n k left : Nat} {c : Server.Cursor δ} {s : δ} {as : List α}
    {l : Limited (Server.Cursor δ × Metered δ)}
    (h : RowSource.collect make k ⟨(c, ⟨s, left⟩), none⟩ = .ok as l) :
    outcome (RowSource.collect make k (firstItems Server.read n (c, s))) = .ok (as.take n) := by
  induction n generalizing k left c s as with
  | zero =>
    rw [firstItems, RowSource.collect_of_end rfl, List.take_zero]
    rfl
  | succ n ih =>
    rw [RowSource.collect_limited_eq (by simp)] at h
    rw [firstItems]
    cases left with
    | zero => cases h
    | succ left =>
      rw [next_succ] at h
      cases hread : Server.read (c, s) with
      | error e p =>
        rw [hread] at h
        cases h
      | ok row p =>
        rw [hread] at h
        cases row with
        | none =>
          cases h
          dsimp only
          rw [RowSource.collect_of_end rfl, List.take_nil]
          rfl
        | some row =>
          simp only [mapState_ok] at h
          dsimp only
          rw [RowSource.collect_cons]
          cases hmake : make k row with
          | error e =>
            rw [hmake] at h
            cases h
          | ok a =>
            rw [hmake] at h
            obtain ⟨rest, hrest, rfl⟩ := RowSource.prepend_eq_ok.mp h
            dsimp only
            rw [RowSource.outcome_prepend, ih hrest]
            rfl

end Reading

end Metered

/-! ## Running a query -/

namespace Workbook

variable {t : Target} {w : Workbook} {q : Query t} {tr : Translation} {δ : Type} {n left : Nat}

/-- Reading a cursor is materializing what it yields up to the limit. -/
theorem readAll_eq [Driver δ] (headers : Headers) (limit : Option Nat) (c : Driver.Cursor δ)
    (s : δ) : w.readAll q headers limit c s =
      mapState (fun l => l.source.2) (materialize t headers q.columns w.settings.trimText
        (⟨(c, s), limit⟩ : Limited (Driver.Cursor δ × δ))) := by
  unfold readAll
  dsimp only
  split <;> next h => rw [h]; rfl

section Server

variable [Server δ] (headers : Headers) (c : Server.Cursor δ) (s : δ)

theorem left_readAll :
    left ≤ (stateAfter (w.readAll q headers (some n) c (⟨s, left⟩ : Metered δ))).left + n := by
  rw [readAll_eq, stateAfter_mapState]
  exact Metered.left_collect_limited n 1 left c s

theorem outcome_readAll (h : n ≤ left) :
    outcome (w.readAll q headers (some n) c (⟨s, left⟩ : Metered δ)) =
      outcome (materialize t headers q.columns w.settings.trimText
        (firstItems Server.read n (c, s))) := by
  rw [readAll_eq, outcome_mapState, materialize, RowSource.outcome_collect_limited,
    ← Metered.firstItems_eq h]
  rfl

/-- What was read without a limit begins with what is made of the first items. -/
theorem outcome_firstItems {rs : List t.Item} {s' : Metered δ}
    (h : w.readAll q headers none c ⟨s, left⟩ = .ok rs s') :
    outcome (materialize t headers q.columns w.settings.trimText
      (firstItems Server.read n (c, s))) = .ok (rs.take n) := by
  rw [readAll_eq] at h
  obtain ⟨l, hl, -⟩ := mapState_eq_ok.mp h
  exact Metered.outcome_collect_firstItems hl

end Server

/-- A driver's cursor is read as a server's is, of which enough reads are left. -/
theorem readAll_eq_metered [Driver δ] {headers : Headers} {limit : Option Nat}
    {c : Driver.Cursor δ} {s : δ} (h : limit.getD (RowSource.remaining (c, s) + 1) ≤ left) :
    w.readAll q headers limit c s =
      mapState Metered.state (w.readAll q headers limit c (⟨s, left⟩ : Metered δ)) := by
  let view (left : Nat) (p : Driver.Cursor δ × δ) : Server.Cursor δ × Metered δ :=
    (p.1, ⟨p.2, left⟩)
  let forget (p : Server.Cursor δ × Metered δ) : Driver.Cursor δ × δ := (p.1, p.2.state)
  have hnext : ∀ left p, RowSource.next (view (left + 1) p) =
      mapState (view left) (RowSource.next p) := fun left p => Metered.next_succ p.1 p.2 left
  have hcollect :
      mapState (fun l => ⟨forget l.source, l.left⟩)
          (materialize t headers q.columns w.settings.trimText
            (⟨view left (c, s), limit⟩ : Limited (Server.Cursor δ × Metered δ))) =
        materialize t headers q.columns w.settings.trimText
          (⟨(c, s), limit⟩ : Limited (Driver.Cursor δ × δ)) :=
    RowSource.mapState_collect_limited hnext (fun _ _ => rfl) h 1
  rw [readAll_eq, readAll_eq, ← hcollect, mapState_mapState, mapState_mapState]
  rfl

section Stages

variable {s s₁ s₂ : δ}

/-- The stages of a run on a metered server: only reading the cursor spends reads. -/
theorem execute_metered [Server δ] (hplan : w.plan q = .ok tr) (s : δ) :
    w.execute q (⟨s, left⟩ : Metered δ) =
      match Server.connect w.file w.dialect s with
      | .error e s => .error e ⟨s, left⟩
      | .ok connection s =>
        match Server.execute connection tr.statement s with
        | .error e s => .error e ⟨s, left⟩
        | .ok (headers, cursor) s =>
          match w.readAll q headers tr.selection.limit cursor (⟨s, left⟩ : Metered δ) with
          | .error e s => .error e s
          | .ok items s =>
            if items.isEmpty ∧ tr.selection.cardinality = .first then .error .noRows s
            else .ok items s := by
  have hconnect : Driver.connect w.file w.dialect (⟨s, left⟩ : Metered δ) =
      mapState (⟨·, left⟩) (Server.connect w.file w.dialect s) := rfl
  rw [execute_eq_stages hplan, hconnect]
  cases Server.connect w.file w.dialect s with
  | error e s => rfl
  | ok connection s =>
    have hexecute : Driver.execute (δ := Metered δ) connection tr.statement ⟨s, left⟩ =
        mapState (⟨·, left⟩) (Server.execute connection tr.statement s) := rfl
    simp only [mapState_ok]
    rw [hexecute]
    cases Server.execute connection tr.statement s with
    | error e s => rfl
    | ok result s =>
      simp only [mapState_ok]
      cases w.readAll (δ := Metered δ) q result.1 tr.selection.limit result.2 ⟨s, left⟩ <;> rfl

/-- A run does not read more often than its limit says. -/
theorem left_execute [Server δ] (hplan : w.plan q = .ok tr)
    (hlimit : tr.selection.limit = some n) (s : δ) :
    left ≤ (stateAfter (w.execute q (⟨s, left⟩ : Metered δ))).left + n := by
  rw [execute_metered hplan, hlimit]
  cases Server.connect w.file w.dialect s with
  | error e s => exact Nat.le_add_right left n
  | ok connection s =>
    dsimp only
    cases Server.execute connection tr.statement s with
    | error e s => exact Nat.le_add_right left n
    | ok result s =>
      have hread : left ≤ (stateAfter
          (w.readAll (δ := Metered δ) q result.1 (some n) result.2 ⟨s, left⟩)).left + n :=
        left_readAll result.1 result.2 s
      dsimp only
      revert hread
      cases w.readAll (δ := Metered δ) q result.1 (some n) result.2 ⟨s, left⟩ with
      | error e s => exact id
      | ok items s =>
        dsimp only
        split <;> exact id

/-- A query with a limit runs on a driver as on a server of which that many reads are left. -/
theorem execute_eq_metered [Driver δ] (hplan : w.plan q = .ok tr)
    (hlimit : tr.selection.limit = some n) (hleft : n ≤ left) (s : δ) :
    w.execute q s = mapState Metered.state (w.execute q (⟨s, left⟩ : Metered δ)) := by
  have hconnect : Server.connect w.file w.dialect s = Driver.connect w.file w.dialect s := rfl
  rw [execute_metered hplan, execute_eq_stages hplan, hlimit, hconnect]
  cases Driver.connect w.file w.dialect s with
  | error e s => rfl
  | ok connection s =>
    have hexecute : Server.execute (δ := δ) connection tr.statement s =
        Driver.execute connection tr.statement s := rfl
    dsimp only
    rw [hexecute]
    cases Driver.execute connection tr.statement s with
    | error e s => rfl
    | ok result s =>
      dsimp only
      have henough :
          (some n).getD (RowSource.remaining (result.2, s) + 1) ≤ left := hleft
      rw [readAll_eq_metered henough]
      cases w.readAll (δ := Metered δ) q result.1 (some n) result.2 ⟨s, left⟩ with
      | error e s => rfl
      | ok items s =>
        simp only [mapState_ok]
        split <;> rfl

theorem outcome_execute [Server δ] (hplan : w.plan q = .ok tr)
    (hlimit : tr.selection.limit = some n) (hleft : n ≤ left)
    {connection : Server.Connection δ} {headers : Headers} {cursor : Server.Cursor δ}
    (hconnect : Server.connect w.file w.dialect s = .ok connection s₁)
    (hexecute : Server.execute connection tr.statement s₁ = .ok (headers, cursor) s₂) :
    outcome (w.execute q (⟨s, left⟩ : Metered δ)) = (do
      let items ← outcome (materialize t headers q.columns w.settings.trimText
        (firstItems Server.read n (cursor, s₂)))
      if items.isEmpty ∧ tr.selection.cardinality = .first then throw .noRows
      else return items) := by
  rw [execute_metered hplan, hlimit, hconnect, ← outcome_readAll headers cursor s₂ hleft]
  dsimp only
  rw [hexecute]
  dsimp only
  cases w.readAll q headers (some n) cursor (⟨s₂, left⟩ : Metered δ) with
  | error e s => rfl
  | ok items s =>
    by_cases hmissing : items.isEmpty ∧ tr.selection.cardinality = .first
    · simp only [if_pos hmissing, outcome, ok_bind]
      rfl
    · simp only [if_neg hmissing, outcome, ok_bind]
      rfl

end Stages

end Workbook

/-- A query with a limit, on a server whose cursors may be read as often as the limit says or more
often. It spends no more reads than the limit, and on a driver it comes to the same without the
count. What it comes to is what is made of the first items of its cursor, as a list that holds
nothing else, save that a first row may then be missing. When something is made of the whole
cursor without the limit, however many reads that takes, the limit keeps the first of it. -/
theorem limit_truncates {δ : Type} [server : Server δ] {t : Target} (w : Workbook) (q : Query t)
    {tr : Translation} (h : w.translate q = .ok tr) {n : Nat}
    (hlimit : tr.selection.limit = some n) (s : δ) {budget : Nat} (hbudget : n ≤ budget) :
    let run := w.execute q (⟨s, budget⟩ : Metered δ)
    budget ≤ (stateAfter run).left + n ∧
    (∀ [Driver δ], Driver.toServer = server → w.execute q s = mapState Metered.state run) ∧
    (tr.selection.element.isDynamic = t.element.isDynamic →
      ∀ connection s₁ headers cursor s₂,
        Server.connect w.file w.dialect s = .ok connection s₁ →
        Server.execute connection tr.statement s₁ = .ok (headers, cursor) s₂ →
        let truncated := outcome (materialize t headers q.columns w.settings.trimText
          (firstItems Server.read n (cursor, s₂)))
        outcome run = (do
          let items ← truncated
          if items.isEmpty ∧ tr.selection.cardinality = .first then throw .noRows
          else return items) ∧
        ∀ enough rs s₃, w.readAll q headers none cursor (⟨s₂, enough⟩ : Metered δ) = .ok rs s₃ →
          truncated = .ok (rs.take n)) := by
  intro run
  cases hplan : w.plan q with
  | error fault =>
    have hrun : run = .error fault ⟨s, budget⟩ := Workbook.execute_of_plan_error hplan _
    rw [hrun]
    refine ⟨Nat.le_add_right budget n, fun _ => ?_, fun helement => ?_⟩
    · exact Workbook.execute_of_plan_error hplan s
    · rw [Workbook.plan_of_translate h helement] at hplan
      cases hplan
  | ok tr' =>
    obtain rfl : tr' = tr := Except.ok.inj ((Workbook.plan_eq_ok.mp hplan).1.symm.trans h)
    refine ⟨Workbook.left_execute hplan hlimit s, ?_, ?_⟩
    · rintro _ rfl
      exact Workbook.execute_eq_metered hplan hlimit hbudget s
    · intro _ connection s₁ headers cursor s₂ hconnect hexecute truncated
      refine ⟨Workbook.outcome_execute hplan hlimit hbudget hconnect hexecute, ?_⟩
      intro enough rs s₃ hread
      exact Workbook.outcome_firstItems headers cursor s₂ hread

/-- A store of three rows, of which two are read: of five reads three are left. -/
theorem limit_truncates_store :
    let w : Workbook := ⟨⟨⟨"a.xlsx"⟩, .excel2007⟩, {}, .ofFormat .excel2007⟩
    let sheet : Sheet := ⟨["n"], [[.integer 1], [.integer 2], [.integer 3]]⟩
    let s : Store := { sheets := [⟨⟨"a.xlsx"⟩, "S", sheet⟩] }
    let q := (Query.ofWorksheet .rows "S").take 2
    outcome (w.execute q s) =
        .ok [⟨[⟨.integer 1⟩], [("n", 0)]⟩, ⟨[⟨.integer 2⟩], [("n", 0)]⟩] ∧
      3 ≤ (stateAfter (w.execute q (⟨s, 5⟩ : Metered Store))).left := by
  intro w sheet s q
  let tr : Translation :=
    ⟨{ worksheet := "S", limit := some 2 }, ⟨"SELECT TOP 2 * FROM [S$]", []⟩⟩
  let headers : Headers := ⟨["n"]⟩
  let cursor : Store.Cursor := ⟨sheet.rows, 0, none⟩
  let s₂ : Store := { s with executed := [tr.statement] }
  have htr : w.translate q = .ok tr := eq_ok_of_toOption (by decide +kernel)
  obtain ⟨hreads, hdriver, hrun⟩ := limit_truncates w q htr rfl s (show 2 ≤ 5 by decide)
  have hconnect : Store.connect w.file w.dialect s = .ok ⟨w.file.path⟩ s :=
    Store.connect_of_file rfl (by decide +kernel)
  have hanswer : s.answer w.file.path tr.statement = .ok (headers, cursor) :=
    eq_ok_of_toOption (by decide +kernel)
  have hexecute : Store.execute ⟨w.file.path⟩ tr.statement s = .ok (headers, cursor) s₂ := by
    rw [Store.execute_of_open rfl, hanswer]
    rfl
  obtain ⟨houtcome, hunlimited⟩ := hrun rfl ⟨w.file.path⟩ s headers cursor s₂ hconnect hexecute
  have hall : w.readAll q headers none cursor s₂ = .ok _ s₂ :=
    Workbook.readAll_store rfl .all sheet none
  have henough : (none : Option Nat).getD (RowSource.remaining (cursor, s₂) + 1) ≤ 4 :=
    Nat.le_refl 4
  rw [Workbook.readAll_eq_metered henough] at hall
  obtain ⟨s₃, hread, -⟩ := mapState_eq_ok.mp hall
  have htruncated := hunlimited 4 _ s₃ hread
  constructor
  · rw [hdriver rfl, outcome_mapState, houtcome, htruncated]
    rfl
  · omega

end WorkbookQuery
