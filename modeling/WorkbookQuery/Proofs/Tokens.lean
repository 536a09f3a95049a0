/-
  The tokens of a statement, part by part. In the dialects that there are, the text of every
  statement is read back as the tokens of its selection (`scan_statement`), so that facts about
  the text become facts about tokens, in which a name is one thing whatever characters it is
  made of.
-/
import WorkbookQuery.Proofs.Scanning
import WorkbookQuery.Proofs.Writing

namespace WorkbookQuery

open Token (scan StartsNeutral EndsNeutral scan_append_of_start scan_append_of_end)

/-- The dialects that there are: one for each file format, and the standard one. -/
def Dialect.profiles : List Dialect :=
  [ofFormat .csv, ofFormat .preExcel2007, ofFormat .excel2007, ansi]

/-! ## Tokens of the parts -/

def Comparison.tokens : Comparison → List Token
  | .eq => [.symbol '=']
  | .ne => [.symbol '<', .symbol '>']
  | .lt => [.symbol '<']
  | .le => [.symbol '<', .symbol '=']
  | .gt => [.symbol '>']
  | .ge => [.symbol '>', .symbol '=']

def LikeEscape.tokens : LikeEscape → List Token
  | .brackets => []
  | .backslash => [.word "ESCAPE", .symbol '\'']

def Operand.token : Operand → Token
  | .literal _ => .symbol '?'
  | .column name => .quoted name

/-- Lists of tokens with commas between them. -/
def commaTokens {α : Type} (tokens : α → List Token) : List α → List Token
  | [] => []
  | [x] => tokens x
  | x :: y :: rest => tokens x ++ .symbol ',' :: commaTokens tokens (y :: rest)

namespace Style

/-- A text test; `length` is the number of characters of its constant. -/
def testTokens (style : Style) (column : String) (length : Nat) (anchor : Anchor) :
    List Token :=
  match style.matching, anchor with
  | .driverDefault, _ =>
    .quoted column :: .word "LIKE" :: .symbol '?' :: style.dialect.likeEscape.tokens
  | .caseInsensitive, _ =>
    .word style.dialect.upperFunction :: .symbol '(' :: .quoted column :: .symbol ')' ::
      .word "LIKE" :: .symbol '?' :: style.dialect.likeEscape.tokens
  | .caseSensitive, .anywhere =>
    [.word "INSTR", .symbol '(', .word "1", .symbol ',', .quoted column, .symbol ',',
      .symbol '?', .symbol ',', .word "0", .symbol ')', .symbol '>', .word "0"]
  | .caseSensitive, .start =>
    [.word "STRCOMP", .symbol '(', .word "LEFT", .symbol '(', .quoted column, .symbol ',',
      .word (toString length), .symbol ')', .symbol ',', .symbol '?', .symbol ',', .word "0",
      .symbol ')', .symbol '=', .word "0"]
  | .caseSensitive, .ending =>
    [.word "STRCOMP", .symbol '(', .word "RIGHT", .symbol '(', .quoted column, .symbol ',',
      .word (toString length), .symbol ')', .symbol ',', .symbol '?', .symbol ',', .word "0",
      .symbol ')', .symbol '=', .word "0"]

def filterTokens (style : Style) : Filter → List Token
  | .comparison column op operand => .quoted column :: op.tokens ++ [operand.token]
  | .and left right =>
    .symbol '(' :: style.filterTokens left ++ .word "AND" :: style.filterTokens right ++
      [.symbol ')']
  | .or left right =>
    .symbol '(' :: style.filterTokens left ++ .word "OR" :: style.filterTokens right ++
      [.symbol ')']
  | .not inner => .symbol '(' :: .word "NOT" :: style.filterTokens inner ++ [.symbol ')']
  | .contains column l => style.testTokens column l.value.render.length .anywhere
  | .startsWith column l => style.testTokens column l.value.render.length .start
  | .endsWith column l => style.testTokens column l.value.render.length .ending
  | .isNull column => [.quoted column, .word "IS", .word "NULL"]
  | .isNotNull column => [.quoted column, .word "IS", .word "NOT", .word "NULL"]

def conditionTokens (style : Style) : Option Filter → List Token
  | some f => .word "WHERE" :: style.filterTokens f
  | none => []

end Style

def ProjectedColumn.tokens (c : ProjectedColumn) : List Token :=
  .quoted c.column :: match c.alias? with
    | some a => [.word "AS", .quoted a]
    | none => []

def Projection.tokens : Projection → List Token
  | .all => [.symbol '*']
  | .columns cs => commaTokens ProjectedColumn.tokens cs

namespace Projection

/-- The first token from the columns on. -/
def lead : Projection → Token
  | .all => .symbol '*'
  | .columns [] => .word "FROM"
  | .columns (c :: _) => .quoted c.column

theorem head_tokens (p : Projection) (r : List Token) :
    (p.tokens ++ .word "FROM" :: r).head? = some p.lead := by
  match p with
  | .all | .columns [] | .columns [_] | .columns (_ :: _ :: _) => rfl

end Projection

def OrderKey.tokens (k : OrderKey) : List Token :=
  [.quoted k.column, match k.direction with
    | .ascending => .word "ASC"
    | .descending => .word "DESC"]

def orderingTokens : List OrderKey → List Token
  | [] => []
  | keys => .word "ORDER" :: .word "BY" :: commaTokens OrderKey.tokens keys

namespace Dialect

def leadingLimitTokens (d : Dialect) (limit : Option Nat) : List Token :=
  match d.limitStyle, limit with
  | .top, some n => [.word "TOP", .word (toString n)]
  | _, _ => []

def trailingLimitTokens (d : Dialect) (limit : Option Nat) : List Token :=
  match d.limitStyle, limit with
  | .limit, some n => [.word "LIMIT", .word (toString n)]
  | _, _ => []

end Dialect

namespace Selection

/-- What follows the worksheet in a statement. -/
def tailTokens (s : Selection) (d : Dialect) (matching : TextMatching) : List Token :=
  Style.conditionTokens ⟨d, matching⟩ s.filter ++ orderingTokens s.ordering ++
    d.trailingLimitTokens s.limit

def tokens (s : Selection) (d : Dialect) (matching : TextMatching) : List Token :=
  .word "SELECT" :: d.leadingLimitTokens s.limit ++ s.projection.tokens ++
    .word "FROM" :: .quoted (d.worksheetName s.worksheet) :: s.tailTokens d matching

end Selection

/-! ## Reading the parts -/

theorem Dialect.scan_upperFunction {d : Dialect} (hd : d ∈ Dialect.profiles) :
    scan d.upperFunction.toList = .ok [.word d.upperFunction] := by
  simp only [profiles, List.mem_cons, List.not_mem_nil, or_false] at hd
  rcases hd with rfl | rfl | rfl | rfl <;> rfl

theorem Dialect.scan_quote (d : Dialect) (name : String) :
    scan (d.quote name) = .ok [.quoted name] := Token.scan_quote d.quoting name

theorem LikeEscape.scan_clause (e : LikeEscape) : scan e.clause.toList = .ok e.tokens := by
  cases e <;> rfl

theorem LikeEscape.startsNeutral_clause (e : LikeEscape) : StartsNeutral e.clause.toList := by
  cases e <;> rfl

theorem scan_placeholder : scan ['?'] = .ok [.symbol '?'] := rfl

namespace Style

variable {style : Style}

/-- A pattern and what is compared with it. -/
theorem scan_like (style : Style) {subject : List Char} {ts : List Token}
    (hs : scan subject = .ok ts) :
    scan (subject ++ " LIKE ".toList ++ ['?'] ++ style.dialect.likeEscape.clause.toList) =
      .ok (ts ++ .word "LIKE" :: .symbol '?' :: style.dialect.likeEscape.tokens) := by
  have hlike : scan " LIKE ".toList = .ok [.word "LIKE"] := rfl
  have h1 := scan_append_of_start hs hlike rfl
  have h2 := scan_append_of_end h1 scan_placeholder (.append _ rfl)
  have h3 := scan_append_of_start h2 style.dialect.likeEscape.scan_clause
    style.dialect.likeEscape.startsNeutral_clause
  simpa only [List.append_assoc, List.cons_append, List.nil_append] using h3

/-- The upper case of a column. -/
theorem scan_upper (hd : style.dialect ∈ Dialect.profiles) (column : String) :
    scan (style.dialect.upperFunction.toList ++ "(".toList ++ style.dialect.quote column ++
      ")".toList) = .ok [.word style.dialect.upperFunction, .symbol '(', .quoted column,
        .symbol ')'] := by
  have hopen : scan "(".toList = .ok [.symbol '('] := rfl
  have hclose : scan ")".toList = .ok [.symbol ')'] := rfl
  have h1 := scan_append_of_start (Dialect.scan_upperFunction hd) hopen rfl
  have h2 := scan_append_of_end h1 (style.dialect.scan_quote column) (.append _ rfl)
  exact scan_append_of_start h2 hclose rfl

theorem scan_atEndText (style : Style) (column function : String) (length : Nat)
    (hf : scan function.toList = .ok [.word function]) :
    scan (style.atEndText column function length) =
      .ok [.word "STRCOMP", .symbol '(', .word function, .symbol '(', .quoted column,
        .symbol ',', .word (toString length), .symbol ')', .symbol ',', .symbol '?', .symbol ',',
        .word "0", .symbol ')', .symbol '=', .word "0"] := by
  have hstrcomp : scan "STRCOMP(".toList = .ok [.word "STRCOMP", .symbol '('] := rfl
  have hopen : scan "(".toList = .ok [.symbol '('] := rfl
  have hcomma : scan ", ".toList = .ok [.symbol ','] := rfl
  have hclose : scan "), ".toList = .ok [.symbol ')', .symbol ','] := rfl
  have hend : scan ", 0) = 0".toList =
      .ok [.symbol ',', .word "0", .symbol ')', .symbol '=', .word "0"] := rfl
  have hlength : scan (", " ++ toString length ++ "), ").toList =
      .ok [.symbol ',', .word (toString length), .symbol ')', .symbol ','] := by
    rw [String.toList_append, String.toList_append]
    have h := scan_append_of_end hcomma (Token.scan_toString length) rfl
    exact scan_append_of_start h hclose rfl
  have hstart : StartsNeutral (", " ++ toString length ++ "), ").toList := by
    rw [String.toList_append, String.toList_append]
    rfl
  have hneutral : EndsNeutral (", " ++ toString length ++ "), ").toList := by
    rw [String.toList_append]
    exact .append _ rfl
  have h1 := scan_append_of_end hstrcomp hf rfl
  have h2 := scan_append_of_start h1 hopen rfl
  have h3 := scan_append_of_end h2 (style.dialect.scan_quote column) (.append _ rfl)
  have h4 := scan_append_of_start h3 hlength hstart
  have h5 := scan_append_of_end h4 scan_placeholder (.append _ hneutral)
  exact scan_append_of_start h5 hend rfl

theorem scan_anywhere (style : Style) (column : String) :
    scan ("INSTR(1, ".toList ++ style.dialect.quote column ++ ", ".toList ++ ['?'] ++
      ", 0) > 0".toList) =
      .ok [.word "INSTR", .symbol '(', .word "1", .symbol ',', .quoted column, .symbol ',',
        .symbol '?', .symbol ',', .word "0", .symbol ')', .symbol '>', .word "0"] := by
  have hinstr : scan "INSTR(1, ".toList =
      .ok [.word "INSTR", .symbol '(', .word "1", .symbol ','] := rfl
  have hcomma : scan ", ".toList = .ok [.symbol ','] := rfl
  have hend : scan ", 0) > 0".toList =
      .ok [.symbol ',', .word "0", .symbol ')', .symbol '>', .word "0"] := rfl
  have h1 := scan_append_of_end hinstr (style.dialect.scan_quote column) rfl
  have h2 := scan_append_of_start h1 hcomma rfl
  have h3 := scan_append_of_end h2 scan_placeholder (.append _ rfl)
  exact scan_append_of_start h3 hend rfl

theorem scan_testText (hd : style.dialect ∈ Dialect.profiles) (column : String) (length : Nat)
    (anchor : Anchor) :
    scan (style.testText column length anchor) = .ok (style.testTokens column length anchor) := by
  unfold testText testTokens
  cases style.matching with
  | driverDefault => exact style.scan_like (style.dialect.scan_quote column)
  | caseInsensitive => exact style.scan_like (scan_upper hd column)
  | caseSensitive =>
    cases anchor with
    | anywhere => exact style.scan_anywhere column
    | start => exact style.scan_atEndText column "LEFT" length rfl
    | ending => exact style.scan_atEndText column "RIGHT" length rfl

theorem scan_operandText (style : Style) (o : Operand) :
    scan (style.operandText o) = .ok [o.token] := by
  cases o with
  | literal l => exact scan_placeholder
  | column name => exact style.dialect.scan_quote name

/-- Two conditions in parentheses with a keyword between them. -/
theorem scan_binary {l r : List Char} {ts us : List Token} {keyword word : String}
    (hl : scan l = .ok ts) (hr : scan r = .ok us)
    (hkeyword : scan keyword.toList = .ok [.word word])
    (hstart : StartsNeutral keyword.toList) (hend : EndsNeutral keyword.toList) :
    scan ("(".toList ++ l ++ keyword.toList ++ r ++ ")".toList) =
      .ok (.symbol '(' :: ts ++ .word word :: us ++ [.symbol ')']) := by
  have hopen : scan "(".toList = .ok [.symbol '('] := rfl
  have hclose : scan ")".toList = .ok [.symbol ')'] := rfl
  have h1 := scan_append_of_end hopen hl rfl
  have h2 := scan_append_of_start h1 hkeyword hstart
  have h3 := scan_append_of_end h2 hr (.append _ hend)
  have h4 := scan_append_of_start h3 hclose rfl
  have htokens : .symbol '(' :: ts ++ .word word :: us ++ [.symbol ')'] =
      [.symbol '('] ++ ts ++ [.word word] ++ us ++ [.symbol ')'] := by
    simp only [List.append_assoc, List.cons_append, List.nil_append]
  rw [htokens]
  exact h4

/-- A condition is read back as its tokens, by induction on the condition. -/
theorem scan_filterText (hd : style.dialect ∈ Dialect.profiles) (f : Filter) :
    scan (style.filterText f) = .ok (style.filterTokens f) := by
  induction f with
  | comparison column op operand =>
    have hop : scan (" " ++ op.symbol ++ " ").toList = .ok op.tokens := by cases op <;> rfl
    have hstart : StartsNeutral (" " ++ op.symbol ++ " ").toList := by cases op <;> rfl
    have hend : EndsNeutral (" " ++ op.symbol ++ " ").toList := by cases op <;> rfl
    have h1 := scan_append_of_start (style.dialect.scan_quote column) hop hstart
    exact scan_append_of_end h1 (style.scan_operandText operand) (.append _ hend)
  | and left right ihl ihr => exact scan_binary ihl ihr rfl rfl rfl
  | or left right ihl ihr => exact scan_binary ihl ihr rfl rfl rfl
  | not inner ih =>
    have hnot : scan "(NOT ".toList = .ok [.symbol '(', .word "NOT"] := rfl
    have hclose : scan ")".toList = .ok [.symbol ')'] := rfl
    have h1 := scan_append_of_end hnot ih rfl
    exact scan_append_of_start h1 hclose rfl
  | contains column l | startsWith column l | endsWith column l =>
    exact scan_testText hd column _ _
  | isNull column =>
    have hnull : scan " IS NULL".toList = .ok [.word "IS", .word "NULL"] := rfl
    exact scan_append_of_start (style.dialect.scan_quote column) hnull rfl
  | isNotNull column =>
    have hnull : scan " IS NOT NULL".toList = .ok [.word "IS", .word "NOT", .word "NULL"] := rfl
    exact scan_append_of_start (style.dialect.scan_quote column) hnull rfl

theorem scan_conditionText (hd : style.dialect ∈ Dialect.profiles) (f : Option Filter) :
    scan (style.conditionText f) = .ok (style.conditionTokens f) ∧
      StartsNeutral (style.conditionText f) := by
  cases f with
  | none => exact ⟨rfl, rfl⟩
  | some f =>
    have hwhere : scan " WHERE ".toList = .ok [.word "WHERE"] := rfl
    exact ⟨scan_append_of_end hwhere (scan_filterText hd f) rfl, rfl⟩

end Style

/-! ## Reading a statement -/

theorem commaSeparated_cons_cons (a b : List Char) (rest : List (List Char)) :
    Dialect.commaSeparated (a :: b :: rest) =
      a ++ [',', ' '] ++ Dialect.commaSeparated (b :: rest) := by
  simp [Dialect.commaSeparated, List.intercalate, List.intersperse]

theorem scan_commaSeparated {α : Type} {text : α → List Char} {tokens : α → List Token}
    (h : ∀ x, scan (text x) = .ok (tokens x)) (xs : List α) :
    scan (Dialect.commaSeparated (xs.map text)) = .ok (commaTokens tokens xs) := by
  induction xs using commaTokens.induct with
  | case1 => rfl
  | case2 x => simpa [Dialect.commaSeparated, List.intercalate, commaTokens] using h x
  | case3 x y rest ih =>
    have hcomma : scan [',', ' '] = .ok [.symbol ','] := rfl
    have h1 := scan_append_of_start (h x) hcomma rfl
    have h2 := scan_append_of_end h1 ih (.append _ rfl)
    rw [List.map_cons, List.map_cons, commaSeparated_cons_cons]
    simpa only [commaTokens, List.append_assoc, List.cons_append, List.nil_append,
      List.map_cons] using h2

namespace Dialect

variable {d : Dialect}

theorem scan_projectedColumn (d : Dialect) (c : ProjectedColumn) :
    scan (d.projectedColumn c) = .ok c.tokens := by
  cases c with
  | mk column alias? =>
    cases alias? with
    | none =>
      simp only [projectedColumn, List.append_nil]
      exact d.scan_quote column
    | some a =>
      have has : scan " AS ".toList = .ok [.word "AS"] := rfl
      have h1 := scan_append_of_end has (d.scan_quote a) rfl
      exact scan_append_of_start (d.scan_quote column) h1 rfl

theorem scan_projection (d : Dialect) (p : Projection) :
    scan (d.projection p) = .ok p.tokens := by
  cases p with
  | all => rfl
  | columns cs => exact scan_commaSeparated d.scan_projectedColumn cs

theorem scan_orderKey (d : Dialect) (k : OrderKey) : scan (d.orderKey k) = .ok k.tokens := by
  cases k with
  | mk column direction =>
    cases direction with
    | ascending =>
      have hasc : scan " ASC".toList = .ok [.word "ASC"] := rfl
      exact scan_append_of_start (d.scan_quote column) hasc rfl
    | descending =>
      have hdesc : scan " DESC".toList = .ok [.word "DESC"] := rfl
      exact scan_append_of_start (d.scan_quote column) hdesc rfl

theorem scan_ordering (d : Dialect) (keys : List OrderKey) :
    scan (d.ordering keys) = .ok (orderingTokens keys) ∧ StartsNeutral (d.ordering keys) := by
  cases keys with
  | nil => exact ⟨rfl, rfl⟩
  | cons k keys =>
    have horder : scan " ORDER BY ".toList = .ok [.word "ORDER", .word "BY"] := rfl
    exact ⟨scan_append_of_end horder (scan_commaSeparated d.scan_orderKey (k :: keys)) rfl, rfl⟩

theorem scan_leadingLimit (d : Dialect) (limit : Option Nat) :
    scan ("SELECT ".toList ++ d.leadingLimit limit) =
        .ok (.word "SELECT" :: d.leadingLimitTokens limit) ∧
      EndsNeutral ("SELECT ".toList ++ d.leadingLimit limit) := by
  have hselect : scan "SELECT ".toList = .ok [.word "SELECT"] := rfl
  cases limit with
  | none =>
    have hnone : d.leadingLimit none = [] ∧ d.leadingLimitTokens none = [] := by
      simp [leadingLimit, leadingLimitTokens]
    rw [hnone.1, hnone.2]
    exact ⟨hselect, rfl⟩
  | some n =>
    have htop : scan "TOP ".toList = .ok [.word "TOP"] := rfl
    have hblank : scan [' '] = .ok [] := rfl
    have h1 := scan_append_of_end htop (Token.scan_toString n) rfl
    have h2 := scan_append_of_start h1 hblank rfl
    simp only [leadingLimit, leadingLimitTokens]
    cases d.limitStyle with
    | top => exact ⟨scan_append_of_end hselect h2 rfl, .append _ (.append _ rfl)⟩
    | limit => exact ⟨hselect, rfl⟩

theorem scan_trailingLimit (d : Dialect) (limit : Option Nat) :
    scan (d.trailingLimit limit) = .ok (d.trailingLimitTokens limit) ∧
      StartsNeutral (d.trailingLimit limit) := by
  cases limit with
  | none =>
    have hnone : d.trailingLimit none = [] ∧ d.trailingLimitTokens none = [] := by
      simp [trailingLimit, trailingLimitTokens]
    rw [hnone.1, hnone.2]
    exact ⟨rfl, rfl⟩
  | some n =>
    have hlimit : scan " LIMIT ".toList = .ok [.word "LIMIT"] := rfl
    simp only [trailingLimit, trailingLimitTokens]
    cases d.limitStyle with
    | top => exact ⟨rfl, rfl⟩
    | limit => exact ⟨scan_append_of_end hlimit (Token.scan_toString n) rfl, rfl⟩

end Dialect

theorem Selection.scan_text {d : Dialect} (hd : d ∈ Dialect.profiles) (s : Selection)
    (matching : TextMatching) : scan (s.text d matching) = .ok (s.tokens d matching) := by
  obtain ⟨hselect, hend⟩ := d.scan_leadingLimit s.limit
  obtain ⟨hcondition, hcstart⟩ := @Style.scan_conditionText ⟨d, matching⟩ hd s.filter
  obtain ⟨hordering, hostart⟩ := d.scan_ordering s.ordering
  obtain ⟨hlimit, hlstart⟩ := d.scan_trailingLimit s.limit
  have hfrom : scan " FROM ".toList = .ok [.word "FROM"] := rfl
  have h1 := scan_append_of_end hselect (d.scan_projection s.projection) hend
  have h2 := scan_append_of_start h1 hfrom rfl
  have h3 := scan_append_of_end h2 (d.scan_quote (d.worksheetName s.worksheet)) (.append _ rfl)
  have h4 := scan_append_of_start h3 hcondition hcstart
  have h5 := scan_append_of_start h4 hordering hostart
  have h6 := scan_append_of_start h5 hlimit hlstart
  unfold text tokens tailTokens Dialect.worksheetReference
  simpa only [List.append_assoc, List.cons_append, List.nil_append] using h6

/-- Every statement is read back as the tokens of its selection. -/
theorem scan_statement {s : Selection} {d : Dialect} (hd : d ∈ Dialect.profiles)
    {settings : Settings} {t : Statement} (h : Statement.ofSelection s d settings = .ok t) :
    scan t.text.toList = .ok (s.tokens d settings.matching) := by
  obtain ⟨-, -, rfl⟩ := ofSelection_eq_ok.mp h
  rw [String.toList_ofList]
  exact s.scan_text hd settings.matching

end WorkbookQuery
