/-
  Runs of a store that many share. Anyone may register worksheets, close the store, connect,
  run statements and read cursors, in any order. `step_of_perform` says once what a single call
  can do. From it, for every order of calls: a store that is closed stays closed and refuses
  everything, a cursor delivers a prefix of the rows that its worksheet had when its statement
  was run, and the store has kept the statements that were run while it was open
  (`run_guarantees`).

  Calls are taken whole, one after the other; what two calls do at the same moment is not said.
-/
import WorkbookQuery.Proofs.Outcome
import WorkbookQuery.Session.Store

namespace WorkbookQuery

namespace Store

/-! ## What a statement asks of a worksheet -/

/-- The rows that a statement asks for: of each row all values, or those under the columns that
it names. A row that is too short has null, and what is too much is left out. -/
def projected (sheet : Sheet) : Option (List (String × Option String)) → List RawRow
  | none =>
    sheet.rows.map fun row => (List.range sheet.columns.length).map fun i => row[i]?.getD .null
  | some names =>
    sheet.rows.map fun row => names.map fun n => row[sheet.columns.idxOf n.1]?.getD .null

theorem eq_of_positions {columns : List String} {names : List (String × Option String)}
    {indices : List Nat} (h : positions columns names = .ok indices) :
    indices = names.map fun n => columns.idxOf n.1 := by
  induction names generalizing indices with
  | nil =>
    cases h
    rfl
  | cons n names ih =>
    rw [positions] at h
    split at h
    · next i hi =>
      obtain ⟨rest, hrest, hindices⟩ := bind_eq_ok.mp h
      have hn : columns.idxOf n.1 = i := by
        unfold List.idxOf? at hi
        exact (List.findIdx?_eq_some_iff_findIdx_eq.mp hi).2
      rw [← pure_eq_ok.mp hindices, ih hrest, List.map_cons, hn]
    · cases h

theorem eq_of_project {sheet : Sheet} {names : Option (List (String × Option String))}
    {headers : Headers} {rows : List RawRow} (h : project sheet names = .ok (headers, rows)) :
    rows = projected sheet names := by
  cases names with
  | none =>
    cases h
    rfl
  | some names =>
    obtain ⟨indices, hindices, hrows⟩ := bind_eq_ok.mp h
    cases pure_eq_ok.mp hrows
    rw [eq_of_positions hindices, projected]
    unfold pick
    simp only [List.map_map, Function.comp_def]

/-! ## Calls and what comes of them -/

/-- A store, and the connections and cursors that it has given out, oldest first. -/
structure World where
  store : Store
  connections : List Connection := []
  cursors : List Cursor := []

/-- A call. Connections and cursors go by their numbers. -/
inductive Action where
  | addSheet (path : FilePath) (worksheet : String) (sheet : Sheet)
  | close
  | closeAfterRows (rows : Nat)
  | connect (file : WorkbookFile) (dialect : Dialect)
  | execute (connection : Nat) (statement : Statement)
  | read (cursor : Nat)

/-- What a call comes to. A statement that succeeds yields headers and the number of a cursor. -/
inductive Event where
  | done
  | connect (outcome : Except Fault Connection)
  | execute (path : FilePath) (statement : Statement) (outcome : Except Fault (Headers × Nat))
  | read (cursor : Nat) (outcome : Except Fault (Option RawRow))

/-- A call on a connection or a cursor that there is not cannot be made. -/
def World.perform (w : World) : Action → Option (Event × World)
  | .addSheet path worksheet sheet =>
    some (.done, { w with store := w.store.addSheet path worksheet sheet })
  | .close => some (.done, { w with store := w.store.close })
  | .closeAfterRows rows => some (.done, { w with store := w.store.closeAfterRows rows })
  | .connect file dialect =>
    match Store.connect file dialect w.store with
    | .ok c s => some (.connect (.ok c), { w with store := s, connections := w.connections ++ [c] })
    | .error e s => some (.connect (.error e), { w with store := s })
  | .execute i statement =>
    w.connections[i]?.map fun c =>
      match Store.execute c statement w.store with
      | .ok (headers, cursor) s =>
        (.execute c.path statement (.ok (headers, w.cursors.length)),
          { w with store := s, cursors := w.cursors ++ [cursor] })
      | .error e s => (.execute c.path statement (.error e), { w with store := s })
  | .read i =>
    w.cursors[i]?.map fun c =>
      match Store.read (c, w.store) with
      | .ok row (c, s) => (.read i (.ok row), { w with store := s, cursors := w.cursors.set i c })
      | .error e (c, s) =>
        (.read i (.error e), { w with store := s, cursors := w.cursors.set i c })

/-- A call that was made, between the world before it and the world after it. -/
structure Moment where
  before : World
  event : Event
  after : World

/-- A world and all that happened on the way to it, oldest first. -/
structure Session where
  world : World
  history : List Moment := []

namespace Session

def extend (s : Session) (event : Event) (after : World) : Session :=
  ⟨after, s.history ++ [⟨s.world, event, after⟩]⟩

def act (s : Session) (a : Action) : Session :=
  match s.world.perform a with
  | some (event, after) => s.extend event after
  | none => s

/-- The calls, one after the other, on a store that has given nothing out. -/
def run (store : Store) (actions : List Action) : Session :=
  actions.foldl act { world := { store } }

end Session

/-! ## What a single call can do -/

/-- All that a call can do. -/
inductive Step (w : World) : Event → World → Prop where
  | done {s : Store} : s.executed = w.store.executed →
      (w.store.closed = true → s.closed = true) → Step w .done { w with store := s }
  | connected {c : Connection} : w.store.closed = false →
      Step w (.connect (.ok c)) { w with connections := w.connections ++ [c] }
  | unconnected {reason : String} : Step w (.connect (.error (.connection reason))) w
  | executed {path : FilePath} {statement : Statement} {headers : Headers} {c : Cursor} :
      w.store.closed = false → w.store.answer path statement = .ok (headers, c) →
      Step w (.execute path statement (.ok (headers, w.cursors.length)))
        { w with
          store := { w.store with executed := w.store.executed ++ [statement] }
          cursors := w.cursors ++ [c] }
  | rejected {path : FilePath} {statement : Statement} {e : Fault} :
      w.store.closed = false → w.store.answer path statement = .error e →
      Step w (.execute path statement (.error e))
        { w with store := { w.store with executed := w.store.executed ++ [statement] } }
  | aborted {path : FilePath} {statement : Statement} {reason : String} :
      w.store.closed = true → Step w (.execute path statement (.error (.aborted reason))) w
  | row {i : Nat} {c : Cursor} {row : RawRow} {rest : List RawRow} :
      w.cursors[i]? = some c → w.store.closed = false → c.rows = row :: rest →
      Step w (.read i (.ok (some row)))
        { w with cursors := w.cursors.set i { c with rows := rest, served := c.served + 1 } }
  | ended {i : Nat} {c : Cursor} : w.cursors[i]? = some c → w.store.closed = false →
      c.rows = [] → Step w (.read i (.ok none)) w
  | cut {i : Nat} {c : Cursor} {reason : String} : w.cursors[i]? = some c →
      (beforeRead c w.store).closed = true →
      Step w (.read i (.error (.aborted reason))) { w with store := w.store.close }

variable {w w' : World} {a : Action} {event : Event}

theorem step_of_connect {file : WorkbookFile} {d : Dialect}
    (h : w.perform (.connect file d) = some (event, w')) : Step w event w' := by
  simp only [World.perform, connect] at h
  by_cases hclosed : w.store.closed = true
  · rw [if_pos hclosed] at h
    cases h
    exact .unconnected
  · rw [if_neg hclosed] at h
    by_cases hfile : w.store.hasFile file.path = true
    · rw [if_pos hfile] at h
      cases h
      exact .connected (Bool.eq_false_iff.mpr hclosed)
    · rw [if_neg hfile] at h
      cases h
      exact .unconnected

/-- A statement's result does not depend on the statements before it. -/
theorem answer_executed (s : Store) (statements : List Statement) (path : FilePath)
    (statement : Statement) :
    answer { s with executed := statements } path statement = s.answer path statement := rfl

theorem step_of_execute {i : Nat} {statement : Statement}
    (h : w.perform (.execute i statement) = some (event, w')) : Step w event w' := by
  obtain ⟨c, -, h⟩ := Option.map_eq_some_iff.mp h
  simp only [execute] at h
  by_cases hclosed : w.store.closed = true
  · rw [if_pos hclosed] at h
    cases h
    exact .aborted hclosed
  · have hopen := Bool.eq_false_iff.mpr hclosed
    rw [if_neg hclosed, answer_executed] at h
    cases hanswer : w.store.answer c.path statement with
    | ok result =>
      rw [hanswer] at h
      cases h
      exact .executed hopen hanswer
    | error e =>
      rw [hanswer] at h
      cases h
      exact .rejected hopen hanswer

/-- A read that finds the store closed, or closes it, leaves it closed. -/
theorem read_of_closed {c : Cursor} {s : Store} (h : (beforeRead c s).closed = true) :
    ∃ reason, read (c, s) = .error (.aborted reason) (c, s.close) := by
  have hstore : beforeRead c s = s.close := by
    rw [beforeRead] at h ⊢
    split at h
    · next habort => rw [if_pos habort]
    · next habort =>
      rw [if_neg habort, close, ← h]
  refine ⟨"connection closed after " ++ toString c.served ++ " rows", ?_⟩
  rw [read, if_pos h, hstore]

theorem read_of_open {c : Cursor} {s : Store} (h : (beforeRead c s).closed = false) :
    s.closed = false ∧ (c.rows = [] → read (c, s) = .ok none (c, s)) ∧
      ∀ row rest, c.rows = row :: rest →
        read (c, s) = .ok (some row) ({ c with rows := rest, served := c.served + 1 }, s) := by
  have hstore : beforeRead c s = s := by
    rw [beforeRead] at h ⊢
    split at h
    · cases h
    · next habort => rw [if_neg habort]
  rw [hstore] at h
  refine ⟨h, ?_, ?_⟩
  · intro hrows
    simp only [read, hstore, h, hrows, Bool.false_eq_true, if_false]
  · intro row rest hrows
    simp only [read, hstore, h, hrows, Bool.false_eq_true, if_false]

theorem set_of_getElem? {w : World} {i : Nat} {c : Cursor} (h : w.cursors[i]? = some c) :
    w.cursors.set i c = w.cursors := by
  obtain ⟨hi, rfl⟩ := List.getElem?_eq_some_iff.mp h
  exact List.set_getElem_self hi

theorem step_of_read {i : Nat} (h : w.perform (.read i) = some (event, w')) :
    Step w event w' := by
  obtain ⟨c, hc, h⟩ := Option.map_eq_some_iff.mp h
  by_cases hclosed : (beforeRead c w.store).closed = true
  · obtain ⟨reason, hread⟩ := read_of_closed hclosed
    rw [hread] at h
    cases h
    rw [set_of_getElem? hc]
    exact .cut hc hclosed
  · obtain ⟨hopen, hnil, hcons⟩ := read_of_open (Bool.eq_false_iff.mpr hclosed)
    cases hrows : c.rows with
    | nil =>
      rw [hnil hrows] at h
      cases h
      rw [set_of_getElem? hc]
      exact .ended hc hopen hrows
    | cons row rest =>
      rw [hcons row rest hrows] at h
      cases h
      exact .row hc hopen hrows

theorem step_of_perform (h : w.perform a = some (event, w')) : Step w event w' := by
  cases a with
  | addSheet path worksheet sheet =>
    cases h
    exact .done rfl id
  | close =>
    cases h
    exact .done rfl fun _ => rfl
  | closeAfterRows rows =>
    cases h
    exact .done rfl id
  | connect file d => exact step_of_connect h
  | execute i statement => exact step_of_execute h
  | read i => exact step_of_read h

/-! ## What was refused, kept and delivered -/

namespace Moment

/-- A call that a closed store answers: nothing is opened, run or read, nothing is kept, and
the store is closed afterwards. -/
def Refused (m : Moment) : Prop :=
  m.after.store.closed = true ∧ m.after.store.executed = m.before.store.executed ∧
    match m.event with
    | .done => True
    | .connect outcome => ∃ reason, outcome = .error (.connection reason)
    | .execute _ _ outcome => ∃ reason, outcome = .error (.aborted reason)
    | .read _ outcome => ∃ reason, outcome = .error (.aborted reason)

/-- The statement that was run, if the store was open. -/
def statement? (m : Moment) : Option Statement :=
  match m.event with
  | .execute _ statement _ => if m.before.store.closed then none else some statement
  | _ => none

/-- The row that a cursor delivered. -/
def row? (i : Nat) (m : Moment) : Option RawRow :=
  match m.event with
  | .read j (.ok row?) => if j = i then row? else none
  | _ => none

/-- The call gave out a cursor. -/
def Gives (i : Nat) (m : Moment) : Prop :=
  ∃ path statement headers, m.event = .execute path statement (.ok (headers, i))

/-- The rows that a statement asked of its worksheet as it was at the time of the call. -/
def Asks (rows : List RawRow) (m : Moment) : Prop :=
  ∃ path statement outcome target sheet, m.event = .execute path statement outcome ∧
    SelectTarget.ofText statement.text = .ok target ∧
    m.before.store.sheet? path target.worksheet = some sheet ∧
    rows = projected sheet target.columns

end Moment

/-- The rows that a cursor delivered, oldest first. -/
def delivered (i : Nat) (history : List Moment) : List RawRow :=
  history.filterMap (Moment.row? i)

theorem refused_of_step (h : Step w event w') (hclosed : w.store.closed = true) :
    Moment.Refused ⟨w, event, w'⟩ := by
  cases h with
  | done hexecuted hkeeps => exact ⟨hkeeps hclosed, hexecuted, trivial⟩
  | unconnected => exact ⟨hclosed, rfl, _, rfl⟩
  | aborted => exact ⟨hclosed, rfl, _, rfl⟩
  | cut => exact ⟨rfl, rfl, _, rfl⟩
  | connected hopen | executed hopen | rejected hopen | row _ hopen | ended _ hopen =>
    rw [hclosed] at hopen
    cases hopen

theorem executed_of_step (h : Step w event w') :
    w'.store.executed = w.store.executed ++ (Moment.statement? ⟨w, event, w'⟩).toList := by
  cases h with
  | done hexecuted =>
    rw [hexecuted]
    exact (List.append_nil _).symm
  | executed hopen | rejected hopen =>
    simp [Moment.statement?, hopen]
  | aborted hclosed => simp [Moment.statement?, hclosed]
  | connected | unconnected | row | ended | cut => exact (List.append_nil _).symm

/-- A cursor that was given out serves the rows of a worksheet as it was then. -/
theorem asks_of_answer {path : FilePath} {statement : Statement} {headers : Headers} {c : Cursor}
    (h : w.store.answer path statement = .ok (headers, c)) (n : Nat) :
    Moment.Asks c.rows ⟨w, .execute path statement (.ok (headers, n)), w'⟩ := by
  rw [answer] at h
  split at h
  · cases h
  · obtain ⟨target, htarget, h⟩ := bind_eq_ok.mp h
    split at h
    · cases h
    · next sheet hsheet =>
      obtain ⟨⟨_, rows⟩, hrows, h⟩ := bind_eq_ok.mp h
      cases pure_eq_ok.mp h
      exact ⟨path, statement, _, target, sheet, rfl, htarget, hsheet, eq_of_project hrows⟩

/-- A cursor that there is loses the row that it delivers, and no other. -/
theorem served_of_step (h : Step w event w') {i : Nat} {c : Cursor}
    (hc : w.cursors[i]? = some c) : ∃ c', w'.cursors[i]? = some c' ∧
      c.rows = (Moment.row? i ⟨w, event, w'⟩).toList ++ c'.rows := by
  have hi : i < w.cursors.length := (List.getElem?_eq_some_iff.mp hc).1
  cases h with
  | done | connected | unconnected | rejected | aborted | ended | cut =>
    refine ⟨c, hc, ?_⟩
    simp [Moment.row?]
  | executed =>
    refine ⟨c, ?_, rfl⟩
    rw [List.getElem?_append_left hi, hc]
  | @row j d row rest hd _ hrows =>
    by_cases hji : j = i
    · subst hji
      cases hc.symm.trans hd
      refine ⟨{ c with rows := rest, served := c.served + 1 }, ?_, ?_⟩
      · exact List.getElem?_set_self hi
      · simp [Moment.row?, hrows]
    · refine ⟨c, ?_, ?_⟩
      · rw [List.getElem?_set_ne hji, hc]
      · simp [Moment.row?, hji]

/-- A cursor that is given out is a new one, over the rows that its statement asked for. -/
theorem given_of_step (h : Step w event w') {i : Nat} (hgives : Moment.Gives i ⟨w, event, w'⟩) :
    i = w.cursors.length ∧ ∃ c, w'.cursors[i]? = some c ∧ Moment.Asks c.rows ⟨w, event, w'⟩ := by
  obtain ⟨path, statement, headers, hevent⟩ := hgives
  cases h with
  | @executed _ _ _ c _ hanswer =>
    cases hevent
    exact ⟨rfl, c, List.getElem?_concat_length, asks_of_answer hanswer _⟩
  | _ => cases hevent

/-- There are as many cursors as before, or one more that was given out just now. -/
theorem length_of_step (h : Step w event w') : w'.cursors.length = w.cursors.length ∨
    w'.cursors.length = w.cursors.length + 1 ∧
      Moment.Gives w.cursors.length ⟨w, event, w'⟩ := by
  cases h with
  | executed => exact .inr ⟨List.length_append, _, _, _, rfl⟩
  | row => exact .inl List.length_set
  | _ => exact .inl rfl

/-- Only a cursor that there is delivers a row. -/
theorem row?_of_step (h : Step w event w') {i : Nat} (hi : w.cursors.length ≤ i) :
    Moment.row? i ⟨w, event, w'⟩ = none := by
  cases h with
  | @row j _ _ _ hc =>
    have hj := (List.getElem?_eq_some_iff.mp hc).1
    exact if_neg (by omega)
  | ended => exact ite_self _
  | _ => rfl

/-! ## What a run keeps -/

namespace Session

variable {s : Session}

/-- What every step keeps is kept by every row of calls, by induction on the calls. -/
theorem run_keeps {P : Session → Prop}
    (hstep : ∀ s event w', P s → Step s.world event w' → P (s.extend event w'))
    (actions : List Action) (hs : P s) : P (actions.foldl act s) := by
  induction actions generalizing s with
  | nil => exact hs
  | cons a actions ih =>
    apply ih
    rw [act]
    split
    · next event w' h => exact hstep s event w' hs (step_of_perform h)
    · exact hs

/-- The store is closed, and all that happened since an earlier session was refused. -/
def RefusedSince (s earlier : Session) : Prop :=
  s.world.store.closed = true ∧
    ∃ since, s.history = earlier.history ++ since ∧ ∀ m ∈ since, m.Refused

theorem RefusedSince.extend {earlier : Session} (hs : s.RefusedSince earlier)
    (h : Step s.world event w') : (s.extend event w').RefusedSince earlier := by
  obtain ⟨hclosed, since, hhistory, hsince⟩ := hs
  have hrefused := refused_of_step h hclosed
  refine ⟨hrefused.1, since ++ [⟨s.world, event, w'⟩], ?_, ?_⟩
  · rw [Session.extend, hhistory, List.append_assoc]
  · intro m hm
    rcases List.mem_append.mp hm with hm | hm
    · exact hsince m hm
    · rw [List.mem_singleton.mp hm]
      exact hrefused

/-- The store has kept what the session's history says, behind what it had kept before. -/
def Keeps (kept : List Statement) (s : Session) : Prop :=
  s.world.store.executed = kept ++ s.history.filterMap Moment.statement?

theorem Keeps.extend {kept : List Statement} (hs : s.Keeps kept)
    (h : Step s.world event w') : (s.extend event w').Keeps kept := by
  rw [Keeps, Session.extend, executed_of_step h, hs, List.append_assoc, List.filterMap_append]
  rfl

/-- Each cursor has been given out by a statement, and what it delivered and what it still has
are together the rows that the statement asked for. -/
structure Accounted (s : Session) : Prop where
  rows_eq : ∀ m ∈ s.history, ∀ i, m.Gives i → ∃ c, s.world.cursors[i]? = some c ∧
    m.Asks (delivered i s.history ++ c.rows)
  given : ∀ i < s.world.cursors.length, ∃ m ∈ s.history, m.Gives i
  fresh : ∀ i, s.world.cursors.length ≤ i → delivered i s.history = []

theorem delivered_extend (s : Session) (event : Event) (w' : World) (i : Nat) :
    delivered i (s.extend event w').history =
      delivered i s.history ++ (Moment.row? i ⟨s.world, event, w'⟩).toList := by
  rw [delivered, Session.extend, List.filterMap_append]
  rfl

theorem mem_extend {m : Moment} :
    m ∈ (s.extend event w').history ↔ m ∈ s.history ∨ m = ⟨s.world, event, w'⟩ := by
  rw [Session.extend, List.mem_append, List.mem_singleton]

theorem Accounted.extend (hs : s.Accounted) (h : Step s.world event w') :
    (s.extend event w').Accounted := by
  refine ⟨?_, ?_, ?_⟩
  · intro m hm i hgives
    rw [delivered_extend]
    rcases mem_extend.mp hm with hm | rfl
    · obtain ⟨c, hc, hasks⟩ := hs.rows_eq m hm i hgives
      obtain ⟨c', hc', hrows⟩ := served_of_step h hc
      refine ⟨c', hc', ?_⟩
      rw [List.append_assoc, ← hrows]
      exact hasks
    · obtain ⟨hi, c, hc, hasks⟩ := given_of_step h hgives
      refine ⟨c, hc, ?_⟩
      rw [hs.fresh i (Nat.le_of_eq hi.symm), row?_of_step h (Nat.le_of_eq hi.symm)]
      exact hasks
  · intro i hi
    have hold : i < s.world.cursors.length → ∃ m ∈ (s.extend event w').history, m.Gives i := by
      intro hi
      obtain ⟨m, hm, hgives⟩ := hs.given i hi
      exact ⟨m, mem_extend.mpr (.inl hm), hgives⟩
    rcases length_of_step h with hlength | ⟨hlength, hgives⟩
    · exact hold (hlength ▸ hi)
    · rcases Nat.lt_succ_iff_lt_or_eq.mp (hlength ▸ hi) with hi | rfl
      · exact hold hi
      · exact ⟨_, mem_extend.mpr (.inr rfl), hgives⟩
  · intro i hi
    have hlength : s.world.cursors.length ≤ i := by
      have hi : w'.cursors.length ≤ i := hi
      rcases length_of_step h with hlength | ⟨hlength, -⟩ <;> omega
    rw [delivered_extend, hs.fresh i hlength, row?_of_step h hlength]
    rfl

variable {store : Store}

theorem accounted_run (actions : List Action) : (run store actions).Accounted := by
  apply run_keeps fun s event w' hs h => Accounted.extend hs h
  refine ⟨?_, ?_, ?_⟩
  · intro m hm
    cases hm
  · intro i hi
    cases hi
  · intro i _
    rfl

/-- What a cursor delivered is a prefix of what its statement asked for. -/
theorem prefix_of_accounted (hs : s.Accounted) {m : Moment} (hm : m ∈ s.history) {i : Nat}
    (hgives : m.Gives i) : ∃ rows, m.Asks rows ∧ delivered i s.history <+: rows := by
  obtain ⟨c, -, hasks⟩ := hs.rows_eq m hm i hgives
  exact ⟨_, hasks, c.rows, rfl⟩

theorem given_of_delivered (hs : s.Accounted) {i : Nat} (h : delivered i s.history ≠ []) :
    ∃ m ∈ s.history, m.Gives i := by
  apply hs.given
  exact Nat.lt_of_not_le fun hi => h (hs.fresh i hi)

/-- Every order of calls on a store that many share. Once it is closed it stays closed and
refuses everything. What a cursor delivers is a prefix of the rows that its statement asked of
its worksheet, as that was when the statement was run, and only cursors that a statement gave
out deliver rows. The store keeps the statements that were run while it was open, those it
rejected among them. -/
theorem run_guarantees (store : Store) :
    (∀ earlier later, (run store earlier).world.store.closed = true →
      (run store (earlier ++ later)).RefusedSince (run store earlier)) ∧
    (∀ actions,
      (∀ m ∈ (run store actions).history, ∀ i, m.Gives i →
        ∃ rows, m.Asks rows ∧ delivered i (run store actions).history <+: rows) ∧
      ∀ i, delivered i (run store actions).history ≠ [] →
        ∃ m ∈ (run store actions).history, m.Gives i) ∧
    ∀ actions, (run store actions).Keeps store.executed := by
  refine ⟨?_, ?_, ?_⟩
  · intro earlier later hclosed
    rw [run, List.foldl_append]
    have hstart : (run store earlier).RefusedSince (run store earlier) :=
      ⟨hclosed, [], (List.append_nil _).symm, fun m hm => nomatch hm⟩
    exact run_keeps (P := (RefusedSince · (run store earlier)))
      (fun s event w' hs h => RefusedSince.extend hs h) later hstart
  · intro actions
    have hs : (run store actions).Accounted := accounted_run actions
    exact ⟨fun m hm i => prefix_of_accounted hs hm, fun i => given_of_delivered hs⟩
  · intro actions
    apply run_keeps fun s event w' hs h => Keeps.extend hs h
    exact (List.append_nil _).symm

/-- A worksheet is replaced while a cursor reads it, and one of two statements is rejected. -/
theorem run_guarantees_replaced :
    let path : FilePath := ⟨"a.xlsx"⟩
    let good : Statement := { text := "SELECT [b] FROM [S$]", parameters := [] }
    let bad : Statement := { text := "SELECT [c] FROM [S$]", parameters := [] }
    let sheet (a b : Int64) : Sheet := ⟨["a", "b"], [[.integer a, .integer b], [.integer b], []]⟩
    let earlier : List Action :=
      [.addSheet path "S" (sheet 1 2), .connect ⟨path, .excel2007⟩ (.ofFormat .excel2007),
        .execute 0 good, .read 0, .addSheet path "S" (sheet 3 4), .execute 0 bad, .read 0,
        .execute 0 good, .read 1, .close]
    let later : List Action := [.read 0, .execute 0 good, .connect ⟨path, .csv⟩ .ansi]
    let s := run {} (earlier ++ later)
    (run {} earlier).world.store.closed = true ∧ s.RefusedSince (run {} earlier) ∧
      s.history.length = 13 ∧ delivered 0 s.history = [[.integer 2], [.null]] ∧
      delivered 1 s.history = [[.integer 4]] ∧
      (∃ m ∈ s.history, m.Gives 0 ∧ ∃ rows, m.Asks rows ∧ delivered 0 s.history <+: rows) ∧
      s.world.store.executed = [good, bad, good] ∧ s.Keeps [] := by
  intro path good bad sheet earlier later s
  have hclosed : (run {} earlier).world.store.closed = true := by decide +kernel
  have hdelivered : delivered 0 s.history = [[.integer 2], [.null]] := by decide +kernel
  obtain ⟨hrefused, hcursors, hkept⟩ := run_guarantees {}
  obtain ⟨hserved, hgiven⟩ := hcursors (earlier ++ later)
  obtain ⟨m, hm, hgives⟩ := hgiven 0 (by rw [hdelivered]; exact List.cons_ne_nil _ _)
  refine ⟨hclosed, hrefused earlier later hclosed, by decide +kernel, hdelivered,
    by decide +kernel, ⟨m, hm, hgives, hserved m hm 0 hgives⟩, by decide +kernel, ?_⟩
  exact hkept (earlier ++ later)

end Session

end Store

end WorkbookQuery
