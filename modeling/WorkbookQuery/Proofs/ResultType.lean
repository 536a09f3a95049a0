/-
  What a query's rows become. A query says it by its type, and what it compiles to says it by
  the calls of the query. The two agree but for one call: to select the whole row changes the
  query's type and compiles to nothing, and then the query is refused when it is run, although
  it translates (`refused_iff_whole_row`).
-/
import WorkbookQuery.Proofs.Numbering
import WorkbookQuery.Proofs.Rejection
import WorkbookQuery.Session.Store

namespace WorkbookQuery

/-! ## Chains -/

namespace Expr

/-- The call takes the type from the rows. To select the whole row does not. -/
def losesType : String → List Expr → Bool
  | "select", [.lambda p body] => !Term.isOwn p body
  | "as_rows", _ => true
  | _, _ => false

/-- The chain yields rows without a type. -/
def untyped : Expr → Bool
  | .source element => element.isDynamic
  | .call target method args => losesType method args || target.untyped
  | _ => false

end Expr

namespace Selection

variable {m : ColumnMap} {s s' : Selection} {n n' : Nat} {method : String} {args : List Expr}

theorem losesType_of_ordering? {direction : Direction} {continued : Bool}
    (h : ordering? method = some (direction, continued)) :
    Expr.losesType method args = false := by
  unfold ordering? at h
  split at h <;> cases h <;> rfl

theorem losesType_of_first? {cardinality : Cardinality} (h : first? method = some cardinality) :
    Expr.losesType method args = false := by
  unfold first? at h
  split at h <;> cases h <;> rfl

/-- A call leaves the rows their type unless it takes it. -/
theorem Applies.isDynamic (h : Applies m method args s n s' n') :
    s'.element.isDynamic = (Expr.losesType method args || s.element.isDynamic) := by
  cases h with
  | filter | take | asRows => rfl
  | ordering hmethod => rw [losesType_of_ordering? hmethod, Bool.false_or]
  | first hmethod => rw [losesType_of_first? hmethod, Bool.false_or]
  | firstWhere hmethod => rw [losesType_of_first? hmethod, Bool.false_or]; rfl
  | identity => simp [Expr.losesType, Term.isOwn]
  | record => rfl
  | column _ hc => simp [Expr.losesType, (Term.forms_of_columnOfExpr hc).1, Element.isDynamic]

theorem Drafts.isDynamic {worksheet : String} {e : Expr} (h : Drafts m worksheet e s n) :
    s.element.isDynamic = e.untyped := by
  induction h with
  | source => rfl
  | call _ hcall ih => rw [hcall.isDynamic, ih, Expr.untyped]

end Selection

/-! ## Queries -/

namespace Query

/-- The queries that calls on a worksheet lead to, one call after the other. -/
inductive Fluent : {t : Target} → Query t → Prop where
  | ofWorksheet (t : Target) (worksheet : String) : Fluent (ofWorksheet t worksheet)
  | withColumns {t : Target} {q : Query t} (m) : Fluent q → Fluent (q.withColumns m)
  | mapColumn {t : Target} {q : Query t} (property column) :
      Fluent q → Fluent (q.mapColumn property column)
  | filter {t : Target} {q : Query t} (condition) : Fluent q → Fluent (q.filter condition)
  | orderBy {t : Target} {q : Query t} (key) : Fluent q → Fluent (q.orderBy key)
  | orderByDescending {t : Target} {q : Query t} (key) :
      Fluent q → Fluent (q.orderByDescending key)
  | thenBy {t : Target} {q : Query t} (key) : Fluent q → Fluent (q.thenBy key)
  | thenByDescending {t : Target} {q : Query t} (key) :
      Fluent q → Fluent (q.thenByDescending key)
  | take {t : Target} {q : Query t} (count) : Fluent q → Fluent (q.take count)
  | first {t : Target} {q : Query t} : Fluent q → Fluent q.first
  | firstOrDefault {t : Target} {q : Query t} : Fluent q → Fluent q.firstOrDefault
  | select {t : Target} {q : Query t} (projection) : Fluent q → Fluent (q.select projection)
  | intoRows {t : Target} {q : Query t} : Fluent q → Fluent q.intoRows

variable {t : Target} {q : Query t}

/-- What a query translates to has the type that its calls say. -/
theorem isDynamic_of_translate {d : Dialect} {settings : Settings} {tr : Translation}
    (h : q.translate d settings = .ok tr) :
    tr.selection.element.isDynamic = q.expr.untyped := by
  obtain ⟨n, hdrafts⟩ := Selection.ofExpr_eq_ok.mp (translate_eq_ok.mp h).1
  exact hdrafts.isDynamic

/-- The calls that take the type from the rows take it from the query as well. -/
theorem Fluent.isDynamic_of_untyped (h : q.Fluent) (hq : q.expr.untyped = true) :
    t.element.isDynamic = true := by
  induction h with
  | ofWorksheet => exact hq
  | select | intoRows => rfl
  | withColumns _ _ ih | mapColumn _ _ _ ih | filter _ _ ih | orderBy _ _ ih
  | orderByDescending _ _ ih | thenBy _ _ ih | thenByDescending _ _ ih | take _ _ ih
  | first _ ih | firstOrDefault _ ih => exact ih hq

end Query

/-! ## Faults of a run -/

/-- If the result is a fault, it is one of these. -/
def FailsWithin {σ α : Type} (allowed : Fault → Prop) (r : EStateM.Result Fault σ α) : Prop :=
  ∀ e s, r = .error e s → allowed e

section FailsWithin

variable {allowed : Fault → Prop} {σ τ α β : Type}

theorem failsWithin_ok (a : α) (s : σ) :
    FailsWithin allowed (.ok a s : EStateM.Result Fault σ α) := nofun

theorem failsWithin_error {e : Fault} (h : allowed e) (s : σ) :
    FailsWithin allowed (.error e s : EStateM.Result Fault σ α) := by
  rintro _ _ ⟨⟩
  exact h

/-- A fault that is passed on stays the fault that it was. -/
theorem FailsWithin.pass {r : EStateM.Result Fault σ α} {e : Fault} {s : σ}
    (hr : FailsWithin allowed r) (h : r = .error e s) (t : τ) :
    FailsWithin allowed (.error e t : EStateM.Result Fault τ β) :=
  failsWithin_error (hr e s h) t

theorem FailsWithin.bind {x : EStateM Fault σ α} {f : α → EStateM Fault σ β} {s : σ}
    (hx : FailsWithin allowed (x s)) (hf : ∀ a s', FailsWithin allowed (f a s')) :
    FailsWithin allowed ((x >>= f) s) := by
  dsimp only [Bind.bind, EStateM.bind]
  split
  · exact hf _ _
  · next hfault => exact hx.pass hfault _

theorem FailsWithin.mono {wider : Fault → Prop} {r : EStateM.Result Fault σ α}
    (hr : FailsWithin allowed r) (h : ∀ e, allowed e → wider e) : FailsWithin wider r :=
  fun e s hfault => h e (hr e s hfault)

end FailsWithin

/-- A driver whose faults are among these. -/
structure Driver.FailsWithin (allowed : Fault → Prop) (δ : Type) [Driver δ] : Prop where
  connect : ∀ (file : WorkbookFile) (d : Dialect) (s : δ),
    WorkbookQuery.FailsWithin allowed (Driver.connect file d s)
  execute : ∀ (connection : Driver.Connection δ) (statement : Statement) (s : δ),
    WorkbookQuery.FailsWithin allowed (Driver.execute connection statement s)
  read : ∀ x : Driver.Cursor δ × δ, WorkbookQuery.FailsWithin allowed (RowSource.next x)

theorem Driver.FailsWithin.mono {allowed wider : Fault → Prop} {δ : Type} [Driver δ]
    (hδ : Driver.FailsWithin allowed δ) (h : ∀ e, allowed e → wider e) :
    Driver.FailsWithin wider δ where
  connect file d s := (hδ.connect file d s).mono h
  execute connection statement s := (hδ.execute connection statement s).mono h
  read x := (hδ.read x).mono h

/-- The result is not a fault of a model. -/
def SparesModel {σ α : Type} (r : EStateM.Result Fault σ α) : Prop :=
  ∀ reason s, r ≠ .error (.invalidModel reason) s

/-- The fault is not one of a model. -/
def Fault.IsNotOfModel (e : Fault) : Prop := ∀ reason, e ≠ .invalidModel reason

theorem sparesModel_iff {σ α : Type} {r : EStateM.Result Fault σ α} :
    SparesModel r ↔ FailsWithin Fault.IsNotOfModel r := by
  constructor
  · rintro hr e s h reason rfl
    exact hr reason s h
  · intro hr reason s h
    exact hr _ s h reason rfl

/-- A driver that does not speak of models: its faults are about files, statements and reads. -/
structure Driver.SparesModels (δ : Type) [Driver δ] : Prop where
  connect : ∀ (file : WorkbookFile) (d : Dialect) (s : δ),
    SparesModel (Driver.connect file d s)
  execute : ∀ (connection : Driver.Connection δ) (statement : Statement) (s : δ),
    SparesModel (Driver.execute connection statement s)
  read : ∀ x : Driver.Cursor δ × δ, SparesModel (RowSource.next x)

theorem Driver.sparesModels_iff {δ : Type} [Driver δ] :
    Driver.SparesModels δ ↔ Driver.FailsWithin Fault.IsNotOfModel δ := by
  constructor
  · intro hδ
    exact ⟨fun file d s => sparesModel_iff.mp (hδ.connect file d s),
      fun connection statement s => sparesModel_iff.mp (hδ.execute connection statement s),
      fun x => sparesModel_iff.mp (hδ.read x)⟩
  · intro hδ
    exact ⟨fun file d s => sparesModel_iff.mpr (hδ.connect file d s),
      fun connection statement s => sparesModel_iff.mpr (hδ.execute connection statement s),
      fun x => sparesModel_iff.mpr (hδ.read x)⟩

/-- The fault is one of a row: of its width, or of a value in it. -/
def Fault.IsOfRow : Fault → Prop
  | .execution _ | .columnMismatch .. => True
  | _ => False

theorem checkWidth_fault {headers : Headers} {n : Nat} {row : RawRow} {e : Fault}
    (h : checkWidth headers n row = .error e) : e.IsOfRow := by
  unfold checkWidth at h
  split at h <;> cases h
  trivial

/-- An assignment fails for the value that is assigned. -/
theorem Binding.assign_fault {fields : List Field} {b : Binding fields} {n : Nat} {v : Value}
    {r : Record fields} {e : Fault} (h : b.assign n v r = .error e) : e.IsOfRow := by
  unfold Binding.assign at h
  dsimp only at h
  split at h
  · cases h
    trivial
  · split at h
    · cases h
      trivial
    · split at h <;> cases h
      trivial

/-- So do assignments one after the other, by induction on the fields that are assigned. -/
theorem Binding.assigns_fault {fields : List Field} {bindings : List (Binding fields)}
    {raw : Binding fields → Value} {n : Nat} {r : Record fields} {e : Fault}
    (h : bindings.foldlM (fun r b => b.assign n (raw b) r) r = .error e) : e.IsOfRow := by
  induction bindings generalizing r with
  | nil => cases h
  | cons b rest ih =>
    rw [List.foldlM_cons] at h
    obtain hassign | ⟨r', -, h⟩ := bind_eq_error.mp h
    · exact b.assign_fault hassign
    · exact ih h

/-- What is made of rows fails only for a row. -/
theorem Target.make_fault {t : Target} {headers : Headers} {m : ColumnMap} {trim : Bool}
    {n : Nat} {row : RawRow} {e : Fault} (h : t.make headers m trim n row = .error e) :
    e.IsOfRow := by
  cases t with
  | rows =>
    obtain hwidth | ⟨_, -, h⟩ := bind_eq_error.mp h
    · exact checkWidth_fault hwidth
    · cases h
  | records shape =>
    obtain hwidth | ⟨_, -, h⟩ := bind_eq_error.mp h
    · exact checkWidth_fault hwidth
    · exact Binding.assigns_fault h

section Reading

variable {σ : Type} [RowSource σ] {allowed : Fault → Prop}

/-- Reading fails as its reads do, or as what is made of the rows does. -/
theorem RowSource.failsWithin_collect {α : Type} {make : Nat → RawRow → Except Fault α}
    (hnext : ∀ s : σ, FailsWithin allowed (next s))
    (hmake : ∀ n row e, make n row = .error e → allowed e) (n : Nat) (s : σ) :
    FailsWithin allowed (collect make n s) := by
  fun_induction collect make n s with
  | case1 n s e t hread => exact (hnext s).pass hread t
  | case2 | case4 => exact failsWithin_ok _ _
  | case3 n s row t hread e hrow => exact failsWithin_error (hmake n row e hrow) t
  | case5 n s row t hread a hrow e t' hrest ih => exact ih.pass hrest t'

/-- A limit adds no fault. -/
theorem RowSource.failsWithin_limited (hnext : ∀ s : σ, FailsWithin allowed (next s))
    (x : Limited σ) : FailsWithin allowed (next x) := by
  obtain ⟨s, left⟩ := x
  dsimp only [next]
  split
  · exact failsWithin_ok _ _
  · split
    · exact failsWithin_ok _ _
    · next hread => exact (hnext s).pass hread _

theorem failsWithin_materialize (hrow : ∀ e : Fault, e.IsOfRow → allowed e)
    (hnext : ∀ s : σ, FailsWithin allowed (RowSource.next s)) {t : Target}
    {headers : Headers} {m : ColumnMap} {trim : Bool} (x : Limited σ) :
    FailsWithin allowed (materialize t headers m trim x) :=
  RowSource.failsWithin_collect (RowSource.failsWithin_limited hnext)
    (fun _ _ e h => hrow e (Target.make_fault h)) 1 x

end Reading

namespace Workbook

variable {t : Target} {q : Query t} {w : Workbook} {δ : Type} [Driver δ]
  {allowed : Fault → Prop}

theorem failsWithin_readAll (hrow : ∀ e : Fault, e.IsOfRow → allowed e)
    (hδ : Driver.FailsWithin allowed δ) {headers : Headers} {limit : Option Nat}
    {cursor : Driver.Cursor δ} (s : δ) :
    FailsWithin allowed (w.readAll q headers limit cursor s) := by
  unfold readAll
  dsimp only
  split
  · exact failsWithin_ok _ _
  · next hread => exact (failsWithin_materialize hrow hδ.read _).pass hread _

/-- A plan leads to rows or to a fault on the way there, which is the driver's or one of a row,
unless the first row is missing. -/
theorem failsWithin_execute (hrow : ∀ e : Fault, e.IsOfRow → allowed e)
    (hδ : Driver.FailsWithin allowed δ) {tr : Translation} (h : w.plan q = .ok tr)
    (hmissing : tr.selection.cardinality = .first → allowed .noRows) (s : δ) :
    FailsWithin allowed (w.execute q s) := by
  unfold execute
  rw [h]
  refine (hδ.connect w.file w.dialect s).bind fun connection s => ?_
  refine (hδ.execute connection tr.statement s).bind fun (headers, cursor) s => ?_
  refine (failsWithin_readAll hrow hδ s).bind fun items s => ?_
  split
  · next hfirst => exact failsWithin_error (hmissing hfirst.2) s
  · exact failsWithin_ok _ _

/-- No model is at fault for what happens on the way. -/
theorem sparesModel_execute (hδ : Driver.SparesModels δ) {tr : Translation}
    (h : w.plan q = .ok tr) (s : δ) : SparesModel (w.execute q s) := by
  have hrow : ∀ e : Fault, e.IsOfRow → e.IsNotOfModel := by
    rintro _ hrow reason rfl
    exact hrow
  have hdriver := Driver.sparesModels_iff.mp hδ
  exact sparesModel_iff.mpr (failsWithin_execute hrow hdriver h (fun _ => nofun) s)

/-- A query that does not translate is rejected for its expression or for the settings. -/
theorem translate_fault {e : Fault} (h : w.translate q = .error e) :
    (∃ part : Expr, part.Within q.expr ∧ e = .unsupported part.text) ∨
      ∃ reason, e = .configuration reason := by
  obtain hcompile | ⟨selection, hselection, h⟩ := bind_eq_error.mp h
  · exact .inl (Selection.blames_ofExpr _ _ _ hcompile)
  · obtain hwrite | ⟨_, -, h⟩ := bind_eq_error.mp h
    · rw [(Selection.writable_of_ofExpr hselection).ofSelection_eq] at hwrite
      unfold Settings.validate at hwrite
      split at hwrite <;> cases hwrite
      exact .inr ⟨_, rfl⟩
    · cases h

/-- Without a plan the driver is not reached. -/
theorem execute_of_plan_error {fault : Fault} (h : w.plan q = .error fault) (s : δ) :
    w.execute q s = .error fault s := by
  unfold execute
  rw [h]
  rfl

/-- A query is refused for its model when it translates to rows of another type than its own,
and then only. -/
theorem execute_refused_iff (hδ : Driver.SparesModels δ) (s : δ) :
    (∃ reason s', w.execute q s = .error (.invalidModel reason) s') ↔
      ∃ tr, w.translate q = .ok tr ∧
        tr.selection.element.isDynamic ≠ t.element.isDynamic := by
  cases hplan : w.plan q with
  | ok tr =>
    constructor
    · rintro ⟨reason, s', h⟩
      exact absurd h (sparesModel_execute hδ hplan s reason s')
    · rintro ⟨tr', htr, hne⟩
      rw [plan, htr, ok_bind, if_neg hne] at hplan
      cases hplan
  | error fault =>
    rw [execute_of_plan_error hplan]
    obtain hfault | ⟨tr, htr, hmismatch⟩ := bind_eq_error.mp hplan
    · constructor
      · rintro ⟨reason, _, ⟨⟩⟩
        obtain ⟨_, -, ⟨⟩⟩ | ⟨_, ⟨⟩⟩ := translate_fault hfault
      · rintro ⟨tr, htr, -⟩
        rw [hfault] at htr
        cases htr
    · dsimp only at hmismatch
      split at hmismatch
      · cases hmismatch
      · next hne =>
        cases hmismatch
        exact ⟨fun _ => ⟨tr, htr, hne⟩, fun _ => ⟨_, s, rfl⟩⟩

end Workbook

/-! ## Faults of the worksheets in memory -/

theorem Token.Mode.scan_fault {mode : Mode} {cs : List Char} {e : Fault}
    (h : mode.scan cs = .error e) : ∃ reason, e = .execution reason := by
  induction cs generalizing mode with
  | nil =>
    rw [scan] at h
    cases mode <;> cases h <;> exact ⟨_, rfl⟩
  | cons c cs ih =>
    obtain hrest | ⟨_, -, h⟩ := bind_eq_error.mp h
    · exact ih hrest
    · cases h

theorem SelectTarget.ofText_fault {text : String} {e : Fault} (h : ofText text = .error e) :
    ∃ reason, e = .execution reason := by
  obtain hscan | ⟨tokens, -, h⟩ := bind_eq_error.mp h
  · exact Token.Mode.scan_fault hscan
  · split at h <;> cases h
    exact ⟨_, rfl⟩

namespace Store

theorem positions_fault {columns : List String} {wanted : List (String × Option String)}
    {e : Fault} (h : positions columns wanted = .error e) : ∃ reason, e = .execution reason := by
  induction wanted with
  | nil => cases h
  | cons column wanted ih =>
    rw [positions] at h
    split at h
    · obtain hrest | ⟨_, -, h⟩ := bind_eq_error.mp h
      · exact ih hrest
      · cases h
    · cases h
      exact ⟨_, rfl⟩

theorem project_fault {sheet : Sheet} {columns : Option (List (String × Option String))}
    {e : Fault} (h : project sheet columns = .error e) : ∃ reason, e = .execution reason := by
  cases columns with
  | none => cases h
  | some columns =>
    obtain hpositions | ⟨_, -, h⟩ := bind_eq_error.mp h
    · exact positions_fault hpositions
    · cases h

/-- A statement that cannot be run is at fault itself. -/
theorem answer_fault {s : Store} {path : FilePath} {statement : Statement} {e : Fault}
    (h : s.answer path statement = .error e) : ∃ reason, e = .execution reason := by
  unfold answer at h
  dsimp only at h
  split at h
  · cases h
    exact ⟨_, rfl⟩
  · obtain htarget | ⟨target, -, h⟩ := bind_eq_error.mp h
    · exact SelectTarget.ofText_fault htarget
    · split at h
      · cases h
        exact ⟨_, rfl⟩
      · obtain hproject | ⟨_, -, h⟩ := bind_eq_error.mp h
        · exact project_fault hproject
        · cases h

/-- The fault is about a file, about a statement or about a store that is closed. -/
def IsOfStore : Fault → Prop
  | .connection _ | .execution _ | .aborted _ => True
  | _ => False

theorem failsWithin_connect (file : WorkbookFile) (d : Dialect) (s : Store) :
    FailsWithin IsOfStore (connect file d s) := by
  unfold connect
  split
  · exact failsWithin_error trivial s
  · split
    · exact failsWithin_ok _ _
    · exact failsWithin_error trivial s

theorem failsWithin_run (connection : Connection) (statement : Statement) (s : Store) :
    FailsWithin IsOfStore (execute connection statement s) := by
  unfold execute
  split
  · exact failsWithin_error trivial s
  · dsimp only
    split
    · exact failsWithin_ok _ _
    · next hanswer =>
      obtain ⟨reason, rfl⟩ := answer_fault hanswer
      exact failsWithin_error trivial _

theorem failsWithin_read (x : Cursor × Store) : FailsWithin IsOfStore (read x) := by
  unfold read
  dsimp only
  split
  · exact failsWithin_error trivial _
  · split <;> exact failsWithin_ok _ _

/-- The faults of a store are its own. -/
theorem failsWithin : Driver.FailsWithin IsOfStore Store :=
  ⟨failsWithin_connect, failsWithin_run, failsWithin_read⟩

theorem sparesModels : Driver.SparesModels Store := by
  have hstore : ∀ e : Fault, IsOfStore e → e.IsNotOfModel := by
    rintro _ hstore reason rfl
    exact hstore
  exact Driver.sparesModels_iff.mpr (failsWithin.mono hstore)

end Store

/-! ## Fluent queries -/

/-- Of the queries that calls lead to, those that translate translate to rows of the type that
they say, unless all that took the type from the rows are selections of the whole row: these
take the type from the query only. Such a query, and no other, is refused for its model when it
is run. -/
theorem refused_iff_whole_row {t : Target} {q : Query t} (hq : q.Fluent) :
    (∀ {d : Dialect} {settings : Settings} {tr : Translation},
      q.translate d settings = .ok tr →
        (tr.selection.element.isDynamic = t.element.isDynamic ↔
          (t.element.isDynamic = true → q.expr.untyped = true))) ∧
    ∀ {δ : Type} [Driver δ], Driver.SparesModels δ → ∀ (w : Workbook) (s : δ),
      ((∃ reason s', w.execute q s = .error (.invalidModel reason) s') ↔
        (∃ tr, w.translate q = .ok tr) ∧ t.element.isDynamic = true ∧
          q.expr.untyped = false) := by
  have hquery := hq.isDynamic_of_untyped
  constructor
  · intro d settings tr h
    rw [Query.isDynamic_of_translate h]
    exact ⟨fun h ht => h.trans ht, fun h => Bool.eq_iff_iff.mpr ⟨hquery, h⟩⟩
  · intro δ _ hδ w s
    rw [Workbook.execute_refused_iff hδ]
    constructor
    · rintro ⟨tr, htr, hne⟩
      rw [Query.isDynamic_of_translate htr] at hne
      cases hu : q.expr.untyped with
      | true => exact absurd (hu.trans (hquery hu).symm) hne
      | false =>
        rw [hu] at hne
        exact ⟨⟨tr, htr⟩, by simpa using hne.symm, rfl⟩
    · rintro ⟨⟨tr, htr⟩, ht, hu⟩
      refine ⟨tr, htr, ?_⟩
      rw [Query.isDynamic_of_translate htr, hu, ht]
      exact Bool.false_ne_true

/-- The whole row of a worksheet with people is asked for without a type, and refused; with one
more call it comes back. -/
theorem refused_iff_whole_row_people :
    let people := Target.records ⟨"Person", [⟨"name", ⟨.text, false⟩⟩]⟩
    let q : Query .rows := (Query.ofWorksheet people "P").select fun x => x
    let w : Workbook := ⟨⟨⟨"a.xlsx"⟩, .excel2007⟩, {}, .ofFormat .excel2007⟩
    let s : Store := { sheets := [⟨⟨"a.xlsx"⟩, "P", ⟨["name"], [[.text "Ada"]]⟩⟩] }
    (∃ reason s', w.execute q s = .error (.invalidModel reason) s') ∧
      ¬ ∃ reason s', w.execute q.intoRows s = .error (.invalidModel reason) s' := by
  intro people q w s
  have hq : q.Fluent := .select _ (.ofWorksheet people "P")
  have htranslate : ∃ tr, w.translate q = .ok tr := ⟨_, rfl⟩
  have hrefused := (refused_iff_whole_row hq).2 Store.sparesModels w s
  have hspared := (refused_iff_whole_row (.intoRows hq)).2 Store.sparesModels w s
  refine ⟨hrefused.mpr ⟨htranslate, rfl, rfl⟩, fun h => ?_⟩
  obtain ⟨-, -, huntyped⟩ := hspared.mp h
  cases huntyped

/-- A query of calls only that translates to rows of another type than it says, and cannot be
run. -/
theorem whole_row_refused :
    let people := Target.records ⟨"Person", [⟨"name", ⟨.text, false⟩⟩]⟩
    let q : Query .rows := (Query.ofWorksheet people "P").select fun x => x
    let w : Workbook := ⟨⟨⟨"a.xlsx"⟩, .excel2007⟩, {}, .ofFormat .excel2007⟩
    let s : Store := { sheets := [⟨⟨"a.xlsx"⟩, "P", ⟨["name"], [[.text "Ada"]]⟩⟩] }
    q.Fluent ∧
      (∃ tr, w.translate q = .ok tr ∧
        tr.selection.element.isDynamic ≠ Target.rows.element.isDynamic) ∧
      w.execute q s = .error (.invalidModel
        "query materializes Typed(\"Person\") but was requested as Dynamic") s := by
  intro people q w s
  have hplan : w.plan q = .error (.invalidModel ("query materializes " ++
      (Element.typed "Person").describe ++ " but was requested as " ++
      Element.dynamic.describe)) := rfl
  have htext : "query materializes " ++ (Element.typed "Person").describe ++
      " but was requested as " ++ Element.dynamic.describe =
      "query materializes Typed(\"Person\") but was requested as Dynamic" := by decide +kernel
  rw [htext] at hplan
  exact ⟨.select _ (.ofWorksheet people "P"), ⟨_, rfl, by decide⟩,
    Workbook.execute_of_plan_error hplan s⟩

end WorkbookQuery
