/-
  The first row, asked for in two ways. A query for its first row and the same query for its first
  row if there is one are one statement, run and read alike; they differ in what becomes of a
  result without rows, which is a fault of the one and the answer of the other. So on whatever
  serves them, unless it says itself that there are no rows, each tells what the other comes to
  (`first_agrees`).
-/
import WorkbookQuery.Proofs.Truncation

namespace WorkbookQuery

/-! ## Demands -/

/-- The translation for which a missing first row is a fault. -/
def Translation.demanding (tr : Translation) : Translation :=
  { tr with selection := { tr.selection with cardinality := .first } }

/-- What a run comes to when no rows are a fault. -/
def demanded {σ α : Type} : EStateM.Result Fault σ (List α) → EStateM.Result Fault σ (List α)
  | .ok [] s => .error .noRows s
  | r => r

@[simp] theorem demanded_error {σ α : Type} (e : Fault) (s : σ) :
    demanded (.error e s : EStateM.Result Fault σ (List α)) = .error e s := rfl

theorem demanded_ok {σ α : Type} (items : List α) (s : σ) :
    demanded (.ok items s) = if items.isEmpty then .error .noRows s else .ok items s := by
  cases items <;> rfl

namespace Selection

variable {m : ColumnMap} {worksheet : String} {e : Expr} {method : String}

/-- A call for the first row adds a limit and a cardinality to what was drafted before it, and
is not at fault itself. -/
theorem ofExpr_first {cardinality : Cardinality} (h : first? method = some cardinality) :
    ofExpr (.call e method []) m worksheet =
      (ofExpr e m worksheet).map ({ · with limit := some 1, cardinality }) := by
  rw [ofExpr, ofExpr, draft]
  cases draft m worksheet e with
  | error fault => rfl
  | ok drafted =>
    simp only [ok_bind, applyCall_of_first? h]
    rfl

end Selection

/-! ## One statement -/

namespace Query

variable {t : Target} (q : Query t) (d : Dialect) (settings : Settings)

/-- The two ways to ask for the first row translate alike, or are rejected alike. -/
theorem translate_first : q.first.translate d settings =
    (q.firstOrDefault.translate d settings).map Translation.demanding := by
  have hfirst : Selection.first? "first" = some .first := rfl
  have hdefault : Selection.first? "first_or_default" = some .firstOrDefault := rfl
  simp only [translate, WorkbookQuery.translate, first, firstOrDefault, call,
    Selection.ofExpr_first hfirst, Selection.ofExpr_first hdefault]
  cases Selection.ofExpr q.expr q.columns q.worksheet with
  | error fault => rfl
  | ok selection =>
    -- no clause of the statement depends on the cardinality
    have hstatement : Statement.ofSelection
          { selection with limit := some 1, cardinality := .first } d settings =
        Statement.ofSelection
          { selection with limit := some 1, cardinality := .firstOrDefault } d settings := rfl
    simp only [Except.map, ok_bind, hstatement]
    cases Statement.ofSelection
      { selection with limit := some 1, cardinality := .firstOrDefault } d settings <;> rfl

theorem cardinality_firstOrDefault {tr : Translation}
    (h : q.firstOrDefault.translate d settings = .ok tr) :
    tr.selection.cardinality = .firstOrDefault := by
  have hdefault : Selection.first? "first_or_default" = some .firstOrDefault := rfl
  have hselection := (translate_eq_ok.mp h).1
  rw [firstOrDefault, call, Selection.ofExpr_first hdefault] at hselection
  cases hbefore : Selection.ofExpr q.expr q.columns q.worksheet with
  | error fault =>
    rw [hbefore] at hselection
    cases hselection
  | ok selection =>
    rw [hbefore] at hselection
    exact congrArg Selection.cardinality (Except.ok.inj hselection).symm

end Query

/-! ## Servers that do not speak of rows -/

/-- A server whose faults are among these. -/
structure Server.FailsWithin (allowed : Fault → Prop) (δ : Type) [Server δ] : Prop where
  connect : ∀ (file : WorkbookFile) (d : Dialect) (s : δ),
    WorkbookQuery.FailsWithin allowed (Server.connect file d s)
  execute : ∀ (connection : Server.Connection δ) (statement : Statement) (s : δ),
    WorkbookQuery.FailsWithin allowed (Server.execute connection statement s)
  read : ∀ x : Server.Cursor δ × δ, WorkbookQuery.FailsWithin allowed (Server.read x)

/-- No fault of the server is that there are no rows. -/
abbrev Server.SparesRows (δ : Type) [Server δ] : Prop := Server.FailsWithin (· ≠ .noRows) δ

section FailsWithin

variable {allowed : Fault → Prop} {δ : Type}

theorem Server.failsWithin_iff [Driver δ] :
    Server.FailsWithin allowed δ ↔ Driver.FailsWithin allowed δ :=
  ⟨fun h => ⟨h.connect, h.execute, h.read⟩, fun h => ⟨h.connect, h.execute, h.read⟩⟩

theorem failsWithin_mapState {σ τ α : Type} {f : σ → τ} {r : EStateM.Result Fault σ α}
    (h : FailsWithin allowed r) : FailsWithin allowed (mapState f r) := by
  cases r with
  | ok a s => exact failsWithin_ok a (f s)
  | error e s => exact h.pass rfl (f s)

/-- Counting the reads adds one fault: that none is left. -/
theorem Server.FailsWithin.metered [Server δ] (h : Server.FailsWithin allowed δ)
    (hspent : allowed (.aborted "no read is left")) :
    Driver.FailsWithin allowed (Metered δ) where
  connect file d s := failsWithin_mapState (h.connect file d s.state)
  execute connection statement s := failsWithin_mapState (h.execute connection statement s.state)
  read := by
    rintro ⟨c, s, left⟩
    cases left with
    | zero => exact failsWithin_error hspent _
    | succ left =>
      rw [Metered.next_succ]
      exact failsWithin_mapState (h.read (c, s))

end FailsWithin

theorem Store.sparesRows : Server.SparesRows Store := by
  have hstore : ∀ e : Fault, IsOfStore e → e ≠ .noRows := by
    rintro _ hstore rfl
    exact hstore
  exact Server.failsWithin_iff.mpr (failsWithin.mono hstore)

/-! ## Two runs -/

namespace Workbook

variable {t : Target} {δ : Type} [Driver δ] (w : Workbook) (q : Query t)

theorem plan_first : w.plan q.first = (w.plan q.firstOrDefault).map Translation.demanding := by
  have htranslate : w.translate q.first =
      (w.translate q.firstOrDefault).map Translation.demanding :=
    q.translate_first w.dialect w.settings
  rw [plan, plan, htranslate]
  cases w.translate q.firstOrDefault with
  | error fault => rfl
  | ok tr =>
    dsimp only [Except.map, Translation.demanding, ok_bind]
    split <;> rfl

/-- A query that has no plan is not refused for want of rows. -/
theorem plan_ne_noRows : w.plan q ≠ .error .noRows := by
  intro h
  obtain htranslate | ⟨tr, -, h⟩ := bind_eq_error.mp h
  · obtain ⟨_, -, ⟨⟩⟩ | ⟨_, ⟨⟩⟩ := translate_fault htranslate
  · dsimp only at h
    split at h <;> cases h

/-- The two queries run alike up to the end, where only the first minds that nothing came. -/
theorem execute_first (s : δ) : w.execute q.first s = demanded (w.execute q.firstOrDefault s) := by
  have hplan := w.plan_first q
  cases hdefault : w.plan q.firstOrDefault with
  | error fault =>
    rw [hdefault] at hplan
    rw [execute_of_plan_error hplan, execute_of_plan_error hdefault, demanded_error]
  | ok tr =>
    rw [hdefault] at hplan
    have hcardinality := q.cardinality_firstOrDefault _ _ (plan_eq_ok.mp hdefault).1
    rw [execute_eq_stages hplan, execute_eq_stages hdefault]
    dsimp only [Translation.demanding]
    cases Driver.connect w.file w.dialect s with
    | error e s => rfl
    | ok connection s =>
      dsimp only
      cases Driver.execute connection tr.statement s with
      | error e s => rfl
      | ok result s =>
        have hread : w.readAll q.first result.1 tr.selection.limit result.2 s =
            w.readAll q.firstOrDefault result.1 tr.selection.limit result.2 s := rfl
        dsimp only
        rw [hread]
        cases w.readAll q.firstOrDefault result.1 tr.selection.limit result.2 s with
        | error e s => rfl
        | ok items s => simp [hcardinality, demanded_ok]

/-- No run fails for want of rows but one that demands a row. -/
theorem execute_firstOrDefault_spares (hδ : Driver.FailsWithin (· ≠ .noRows) δ) (s : δ) :
    FailsWithin (· ≠ .noRows) (w.execute q.firstOrDefault s) := by
  cases hplan : w.plan q.firstOrDefault with
  | error fault =>
    rw [execute_of_plan_error hplan]
    refine failsWithin_error ?_ s
    rintro rfl
    exact w.plan_ne_noRows q.firstOrDefault hplan
  | ok tr =>
    have hrow : ∀ e : Fault, e.IsOfRow → e ≠ .noRows := by
      rintro _ hrow rfl
      exact hrow
    have hcardinality := q.cardinality_firstOrDefault _ _ (plan_eq_ok.mp hplan).1
    refine failsWithin_execute hrow hδ hplan (fun hfirst => ?_) s
    rw [hcardinality] at hfirst
    cases hfirst

end Workbook

/-! ## The first row -/

/-- A run for a first row and one for a first row if there is one tell the same. -/
structure FirstAgrees {σ α : Type} (first : EStateM.Result Fault σ α)
    (firstOrDefault : EStateM.Result Fault σ (Option α)) : Prop where
  /-- The one has a row when the other has it. -/
  found : ∀ item s, first = .ok item s ↔ firstOrDefault = .ok (some item) s
  /-- Where the one has nothing, this is a fault of the other. -/
  missing : ∀ s, first = .error .noRows s ↔ firstOrDefault = .ok none s
  /-- They share every other fault. -/
  failed : ∀ e s, firstOrDefault = .error e s ↔ first = .error e s ∧ e ≠ .noRows

section FirstAgrees

variable {σ α : Type}

theorem firstAgrees_ok (item : α) (s : σ) : FirstAgrees (.ok item s) (.ok (some item) s) where
  found := by simp
  missing := by simp
  failed := by simp

theorem firstAgrees_missing (s : σ) :
    FirstAgrees (.error .noRows s : EStateM.Result Fault σ α) (.ok none s) where
  found := by simp
  missing := by simp
  failed := by
    simp only [reduceCtorEq, EStateM.Result.error.injEq, false_iff]
    rintro e s' ⟨⟨rfl, -⟩, he⟩
    exact he rfl

theorem firstAgrees_error {e : Fault} (he : e ≠ .noRows) (s : σ) :
    FirstAgrees (.error e s : EStateM.Result Fault σ α) (.error e s) where
  found := by simp
  missing := by simp [he]
  failed := by
    simp only [EStateM.Result.error.injEq, iff_self_and, and_imp]
    rintro _ _ rfl -
    exact he

end FirstAgrees

/-- The first of a result, demanded or not. -/
theorem Workbook.firstAgrees {δ : Type} [Driver δ] (hδ : Driver.FailsWithin (· ≠ .noRows) δ)
    {t : Target} (w : Workbook) (q : Query t) (s : δ) :
    FirstAgrees (w.first q s) (w.firstOrDefault q s) := by
  have hspares := w.execute_firstOrDefault_spares q hδ s
  unfold Workbook.first Workbook.firstOrDefault
  dsimp only [bind, EStateM.bind]
  rw [w.execute_first q s]
  cases hrun : w.execute q.firstOrDefault s with
  | error e s' => exact firstAgrees_error (hspares e s' hrun) s'
  | ok items s' =>
    cases items with
    | nil => exact firstAgrees_missing s'
    | cons item items => exact firstAgrees_ok item s'

/-- A server that does not itself say that there are no rows is asked for the first row of a
query, and from the same state for the first row if there is one, with any number of reads. When
the one has a row, the other has it too; the one fails for want of rows where the other has none;
and what else goes wrong goes wrong with both. On a driver it is the same without the count. -/
theorem first_agrees {δ : Type} [server : Server δ] (hδ : Server.SparesRows δ) {t : Target}
    (w : Workbook) (q : Query t) (s : δ) :
    (∀ budget, FirstAgrees (w.first q (⟨s, budget⟩ : Metered δ))
      (w.firstOrDefault q (⟨s, budget⟩ : Metered δ))) ∧
    ∀ [Driver δ], Driver.toServer = server → FirstAgrees (w.first q s) (w.firstOrDefault q s) := by
  constructor
  · intro budget
    exact w.firstAgrees (hδ.metered nofun) q ⟨s, budget⟩
  · rintro _ rfl
    exact w.firstAgrees (Server.failsWithin_iff.mp hδ) q s

/-- Of two worksheets the second has no rows. -/
theorem first_agrees_people :
    let w : Workbook := ⟨⟨⟨"a.xlsx"⟩, .excel2007⟩, {}, .ofFormat .excel2007⟩
    let people : Sheet := ⟨["name"], [[.text "Ada"], [.text "Grace"]]⟩
    let s : Store :=
      { sheets := [⟨⟨"a.xlsx"⟩, "P", people⟩, ⟨⟨"a.xlsx"⟩, "N", ⟨["name"], []⟩⟩] }
    let q (worksheet : String) : Query .rows := Query.ofWorksheet .rows worksheet
    Server.SparesRows Store ∧
      w.first (q "P") s = .ok ⟨[⟨.text "Ada"⟩], [("name", 0)]⟩
        { s with executed := [⟨"SELECT TOP 1 * FROM [P$]", []⟩] } ∧
      w.first (q "N") s = .error .noRows
        { s with executed := [⟨"SELECT TOP 1 * FROM [N$]", []⟩] } := by
  intro w people s q
  let tr (worksheet text : String) : Translation :=
    ⟨{ worksheet, limit := some 1, cardinality := .firstOrDefault }, ⟨text, []⟩⟩
  have hpath : Workbook.ofPath ⟨"a.xlsx"⟩ = .ok w := eq_ok_of_toOption (by decide +kernel)
  have hrun : ∀ worksheet text sheet, worksheet.toList.getLast? ≠ some '$' →
      s.sheet? w.file.path worksheet = some sheet →
      w.translate (q worksheet).firstOrDefault = .ok (tr worksheet text) →
      w.firstOrDefault (q worksheet) s =
        .ok ((sheet.rows.take 1).map (Projection.all.row sheet)).head?
          { s with executed := [⟨text, []⟩] } := by
    intro worksheet text sheet hname hsheet htr
    have hexecute := (execute_rows (.ofPath hpath) rfl rfl hname hsheet htr rfl trivial).1
    have hcardinality : (tr worksheet text).selection.cardinality ≠ .first := nofun
    simp only [hcardinality, and_false, if_false] at hexecute
    unfold Workbook.firstOrDefault
    dsimp only [bind, EStateM.bind]
    rw [hexecute]
    rfl
  have hpeople := hrun "P" "SELECT TOP 1 * FROM [P$]" people (by decide) (by decide +kernel)
    (eq_ok_of_toOption (by decide +kernel))
  have hnone := hrun "N" "SELECT TOP 1 * FROM [N$]" ⟨["name"], []⟩ (by decide) (by decide +kernel)
    (eq_ok_of_toOption (by decide +kernel))
  have hagreesPeople := (first_agrees Store.sparesRows w (q "P") s).2 rfl
  have hagreesNone := (first_agrees Store.sparesRows w (q "N") s).2 rfl
  exact ⟨Store.sparesRows, (hagreesPeople.found _ _).mpr hpeople,
    (hagreesNone.missing _).mpr hnone⟩

end WorkbookQuery
