/-
  Which statements are read back. What an expression translates to is read back, with its columns
  and its worksheet, unless the expression reads the columns of a record without fields: such a
  record compiles to an empty list of columns, the list is written as nothing, and what follows
  it is taken for a column. The store answers these statements, and no others that come from an
  expression, with a syntax error (`read_back_iff`).
-/
import WorkbookQuery.Proofs.Execution

namespace WorkbookQuery

/-! ## Statements without columns -/

namespace SelectTarget

/-- The word in front of the worksheet is read as a column, and then a word is missing. -/
theorem ofTokens?_of_no_columns {s : Selection} (hp : s.projection = .columns []) (d : Dialect)
    (matching : TextMatching) : ofTokens? (s.tokens d matching) = none := by
  have hselect : (Token.word "SELECT").isKeyword "SELECT" = true := by decide
  have hlead : ∀ r, skipTop (d.leadingLimitTokens s.limit ++ (s.projection.tokens ++
      .word "FROM" :: r)) = s.projection.tokens ++ .word "FROM" :: r :=
    skipTop_tokens d s.limit s.projection
  have htokens : s.projection.tokens = [] := by
    rw [hp]
    rfl
  have hcolumn (name : String) (r : List Token) :
      readProjection? (.word "FROM" :: .quoted name :: r) =
        some (some [("FROM", none)], .quoted name :: r) := by
    simp [readProjection?, readColumns?, Token.identifier?, Token.isKeyword]
  have hfrom (name : String) (r : List Token) : readFrom? (.quoted name :: r) = none := by
    cases r <;> rfl
  simp only [Selection.tokens, List.cons_append, List.append_assoc, ofTokens?]
  rw [if_pos hselect, hlead, htokens, List.nil_append, hcolumn]
  simp [hfrom]

end SelectTarget

/-- The fault of a statement that is not read back. -/
def Fault.syntaxError (text : String) : Fault :=
  .execution ("syntax error in statement: " ++ text)

theorem ofText_of_no_columns {s : Selection} (hp : s.projection = .columns []) {d : Dialect}
    (hd : d ∈ Dialect.profiles) {settings : Settings} {t : Statement}
    (h : Statement.ofSelection s d settings = .ok t) :
    SelectTarget.ofText t.text = .error (.syntaxError t.text) := by
  rw [SelectTarget.ofText, scan_statement hd h, ok_bind,
    SelectTarget.ofTokens?_of_no_columns hp d settings.matching]
  rfl

/-! ## Chains that read no columns -/

namespace Selection

variable {m : ColumnMap} {s s' : Selection} {n n' : Nat} {worksheet : String}

/-- Without a record a chain reads all columns or a single one. -/
def ReadsAllOrOne (s : Selection) : Prop :=
  s.projection = .all ∨ ∃ c, s.projection = .columns [c]

theorem Applies.readsAllOrOne {method : String} {args : List Expr}
    (h : Applies m method args s n s' n')
    (hrecord : ∀ p fields, method = "select" → args ≠ [.lambda p (.record fields)])
    (hs : s.ReadsAllOrOne) : s'.ReadsAllOrOne := by
  cases h with
  | filter | ordering | take | first | firstWhere | identity | asRows => exact hs
  | record => exact absurd rfl (hrecord _ _ rfl)
  | column => exact .inr ⟨_, rfl⟩

theorem Drafts.readsAllOrOne {e : Expr} (h : Drafts m worksheet e s n)
    (hnames : e.recordNames? = none) : s.ReadsAllOrOne := by
  induction h with
  | source => exact .inl rfl
  | call _ hcall ih =>
    unfold Expr.recordNames? at hnames
    split at hnames
    · cases hnames
    · next hrecord =>
      apply hcall.readsAllOrOne
      · intro p fields hmethod hargs
        exact hrecord p fields hmethod hargs
      · exact ih hnames

/-- A chain reads no columns when it reads a record without fields, and only then. -/
theorem Drafts.no_columns_iff {e : Expr} (h : Drafts m worksheet e s n) :
    s.projection = .columns [] ↔ e.recordNames? = some [] := by
  constructor
  · intro hp
    cases hnames : e.recordNames? with
    | none =>
      rcases h.readsAllOrOne hnames with hall | ⟨c, hone⟩
      · rw [hp] at hall
        cases hall
      · rw [hp] at hone
        cases hone
    | some names =>
      obtain ⟨columns, hcolumns, hheads⟩ := h.heads hnames
      rw [hp] at hcolumns
      cases hcolumns
      rw [← hheads]
      rfl
  · intro hnames
    obtain ⟨columns, hcolumns, hheads⟩ := h.heads hnames
    rw [List.map_eq_nil_iff] at hheads
    rw [hcolumns, hheads]

end Selection

/-! ## What the store answers -/

namespace Store

theorem syntaxError_ne {a b : String} {c : Char} (ha : a.toList.head? = some c) (hc : c ≠ 's')
    (text : String) : Fault.execution (a ++ b) ≠ .syntaxError text := by
  intro h
  have hreason : a ++ b = "syntax error in statement: " ++ text := Fault.execution.inj h
  have hhead := congrArg (fun s => s.toList.head?) hreason
  simp only [String.toList_append, List.head?_append, ha] at hhead
  exact hc (Option.some.inj hhead)

theorem positions_ne_syntaxError {columns : List String}
    (wanted : List (String × Option String)) (text : String) :
    positions columns wanted ≠ .error (.syntaxError text) := by
  induction wanted with
  | nil => nofun
  | cons column wanted ih =>
    intro h
    rw [positions] at h
    split at h
    · rcases bind_eq_error.mp h with hrest | ⟨_, -, h⟩
      · exact ih hrest
      · cases h
    · have hfault := Except.error.inj h
      rw [String.append_assoc] at hfault
      exact syntaxError_ne (c := 'n') rfl (by decide) text hfault

theorem project_ne_syntaxError (sheet : Sheet) (columns : Option (List (String × Option String)))
    (text : String) : project sheet columns ≠ .error (.syntaxError text) := by
  intro h
  cases columns with
  | none => cases h
  | some columns =>
    rcases bind_eq_error.mp h with hpositions | ⟨_, -, h⟩
    · exact positions_ne_syntaxError columns text hpositions
    · cases h

/-- A statement whose placeholders suit its parameters is answered with a syntax error when it
is not read back, and only then. -/
theorem answer_syntaxError_iff (s : Store) (path : FilePath) {statement : Statement}
    (hcount : statement.placeholderCount = statement.parameters.length) {text : String} :
    s.answer path statement = .error (.syntaxError text) ↔
      SelectTarget.ofText statement.text = .error (.syntaxError text) := by
  rw [answer, if_neg (not_not_intro hcount)]
  constructor
  · intro h
    rcases bind_eq_error.mp h with htarget | ⟨target, -, h⟩
    · exact htarget
    · split at h
      · have hfault := Except.error.inj h
        rw [String.append_assoc, String.append_assoc] at hfault
        exact absurd hfault (syntaxError_ne (c := 'w') rfl (by decide) text)
      · rcases bind_eq_error.mp h with hproject | ⟨_, -, h⟩
        · exact absurd hproject (project_ne_syntaxError _ _ text)
        · cases h
  · intro h
    rw [h]
    rfl

end Store

/-- What an expression translates to, in the dialects that there are, is read back unless the
expression reads a record without fields. A store with whatever worksheets answers it with a
syntax error in that case, and in no other. -/
theorem read_back_iff {e : Expr} {m : ColumnMap} {worksheet : String} {d : Dialect}
    (hd : d ∈ Dialect.profiles) {settings : Settings} {tr : Translation}
    (h : translate e m worksheet d settings = .ok tr) :
    ((∃ target, SelectTarget.ofText tr.statement.text = .ok target) ↔
        e.recordNames? ≠ some []) ∧
      ∀ (s : Store) (path : FilePath) (text : String),
        s.answer path tr.statement = .error (.syntaxError text) ↔
          e.recordNames? = some [] ∧ text = tr.statement.text := by
  obtain ⟨hselection, hstatement⟩ := translate_eq_ok.mp h
  obtain ⟨n, hdrafts⟩ := Selection.ofExpr_eq_ok.mp hselection
  have hcount := Store.placeholderCount_eq hd hstatement
  by_cases hempty : e.recordNames? = some []
  · have hp := hdrafts.no_columns_iff.mpr hempty
    have hread := ofText_of_no_columns hp hd hstatement
    constructor
    · rw [hread, hempty]
      simp
    · intro s path text
      rw [Store.answer_syntaxError_iff s path hcount, hread]
      constructor
      · intro hfault
        have htext : tr.statement.text = text := by
          simpa [Fault.syntaxError] using hfault
        exact ⟨hempty, htext.symm⟩
      · rintro ⟨-, rfl⟩
        rfl
  · have hp : tr.selection.projection ≠ .columns [] := fun hp =>
      hempty (hdrafts.no_columns_iff.mp hp)
    have hread : SelectTarget.ofText tr.statement.text =
        .ok ⟨tr.selection.projection.names, SelectTarget.stripSuffix tr.selection.worksheet⟩ := by
      rw [SelectTarget.ofText, scan_statement hd hstatement, ok_bind,
        SelectTarget.ofTokens?_tokens hp d settings.matching]
      rfl
    constructor
    · exact ⟨fun _ => hempty, fun _ => ⟨_, hread⟩⟩
    · intro s path text
      rw [Store.answer_syntaxError_iff s path hcount, hread]
      constructor
      · intro hfault
        cases hfault
      · intro h
        exact absurd h.1 hempty

/-- A record with fields named like keywords is read back, and one without fields is not. -/
theorem read_back_iff_records :
    let chain (fields : List (String × Expr)) : Expr :=
      .call (.call (.source .dynamic) "take" [.ofValue (.integer 5)]) "select"
        [.lambda "x" (.record fields)]
    let fields := [("FROM", Expr.member (.parameter "x") "a")]
    let d : Dialect := .ofFormat .excel2007
    let statement : Statement := { text := "SELECT TOP 5 [a] AS [FROM] FROM [S$]", parameters := [] }
    let blank : Statement := { text := "SELECT TOP 5  FROM [S$]", parameters := [] }
    (∃ tr, translate (chain fields) .empty "S" d {} = .ok tr ∧ tr.statement = statement ∧
      ∃ target, SelectTarget.ofText tr.statement.text = .ok target) ∧
    ∃ tr, translate (chain []) .empty "S" d {} = .ok tr ∧ tr.statement = blank ∧
      ∀ (s : Store) (path : FilePath),
        s.answer path tr.statement = .error (.syntaxError tr.statement.text) := by
  intro chain fields d statement blank
  have hd : d ∈ Dialect.profiles := by decide
  let named : Translation :=
    ⟨{ worksheet := "S", projection := .columns [⟨"a", some "FROM"⟩], limit := some 5 }, statement⟩
  let unnamed : Translation :=
    ⟨{ worksheet := "S", projection := .columns [], limit := some 5 }, blank⟩
  have hnamed : translate (chain fields) .empty "S" d {} = .ok named :=
    eq_ok_of_toOption (by decide +kernel)
  have hunnamed : translate (chain []) .empty "S" d {} = .ok unnamed :=
    eq_ok_of_toOption (by decide +kernel)
  refine ⟨⟨named, hnamed, rfl, ?_⟩, ⟨unnamed, hunnamed, rfl, ?_⟩⟩
  · exact (read_back_iff hd hnamed).1.mpr (by decide)
  · intro s path
    exact ((read_back_iff hd hunnamed).2 s path _).mpr ⟨rfl, rfl⟩

/-- An expression that translates to a statement that is not read back. -/
theorem empty_record_unread :
    let e : Expr := .call (.source .dynamic) "select" [.lambda "x" (.record [])]
    ∃ tr, translate e .empty "S" (.ofFormat .excel2007) {} = .ok tr ∧
      tr.statement.text = "SELECT  FROM [S$]" ∧
      SelectTarget.ofText tr.statement.text = .error (.syntaxError "SELECT  FROM [S$]") := by
  intro e
  let statement : Statement := { text := "SELECT  FROM [S$]", parameters := [] }
  let tr : Translation := ⟨{ worksheet := "S", projection := .columns [] }, statement⟩
  have htranslate : translate e .empty "S" (.ofFormat .excel2007) {} = .ok tr :=
    eq_ok_of_toOption (by decide +kernel)
  obtain ⟨-, hstatement⟩ := translate_eq_ok.mp htranslate
  exact ⟨tr, htranslate, rfl, ofText_of_no_columns rfl (by decide) hstatement⟩

end WorkbookQuery
