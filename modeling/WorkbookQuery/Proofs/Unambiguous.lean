/-
  What a statement's text says about its selection. Every part of a statement is told by its
  first tokens and by where it ends, so that no name makes one selection look like another:
  statements of the same text are of selections that only their constants tell apart
  (`alike_of_text_eq`).
-/
import Mathlib
import WorkbookQuery.Proofs.Tokens

namespace WorkbookQuery

open Token (scan)

/-! ## Selections up to their constants -/

def Operand.shape : Operand → Operand
  | .literal _ => .literal default
  | .column name => .column name

namespace Filter

/-- A test of text without its constant. Only a comparison of characters tells the tests
apart; to the others they are all one. -/
def testShape (matching : TextMatching) (column : String) (anchor : Anchor) : Filter :=
  match matching, anchor with
  | .caseSensitive, .start => .startsWith column default
  | .caseSensitive, .ending => .endsWith column default
  | _, _ => .contains column default

/-- The condition without its constants. -/
def shape (matching : TextMatching) : Filter → Filter
  | .comparison column op operand => .comparison column op operand.shape
  | .and left right => .and (left.shape matching) (right.shape matching)
  | .or left right => .or (left.shape matching) (right.shape matching)
  | .not inner => .not (inner.shape matching)
  | .contains column _ => testShape matching column .anywhere
  | .startsWith column _ => testShape matching column .start
  | .endsWith column _ => testShape matching column .ending
  | .isNull column => .isNull column
  | .isNotNull column => .isNotNull column

end Filter

/-- The same but for constants, and for the suffix where a dialect adds it to a worksheet. -/
structure Selection.Alike (d : Dialect) (matching : TextMatching) (a b : Selection) : Prop where
  limit : a.limit = b.limit
  projection : a.projection = b.projection
  ordering : a.ordering = b.ordering
  worksheet : d.worksheetName a.worksheet = d.worksheetName b.worksheet
  plain : d.sheetReference = .plain → a.worksheet = b.worksheet
  filter : a.filter.map (Filter.shape matching) = b.filter.map (Filter.shape matching)

/-! ## Conditions -/

theorem Comparison.tokens_append_inj {op op' : Comparison} {t t' : Token} {r s : List Token}
    (ht : t ∉ [.symbol '=', .symbol '>']) (ht' : t' ∉ [.symbol '=', .symbol '>'])
    (h : op.tokens ++ t :: r = op'.tokens ++ t' :: s) : op = op' ∧ t = t' ∧ r = s := by
  cases op <;> cases op' <;> simp_all [tokens]

theorem Operand.token_ne (o : Operand) : o.token ∉ [Token.symbol '=', .symbol '>'] := by
  cases o <;> simp [token]

theorem Operand.shape_eq {o o' : Operand} (h : o.token = o'.token) : o.shape = o'.shape := by
  cases o <;> cases o' <;> simp_all [token, shape]

/-- How a condition starts. -/
inductive Form where
  | comparison
  | binary
  | negation
  | test
  | null
  | notNull

namespace Form

/-- The form that the first tokens tell. -/
def ofTokens : List Token → Form
  | .symbol '(' :: .word "NOT" :: _ => negation
  | .symbol '(' :: _ => binary
  | .quoted _ :: .symbol _ :: _ => comparison
  | .quoted _ :: .word "IS" :: .word "NULL" :: _ => null
  | .quoted _ :: .word "IS" :: _ => notNull
  | _ => test

def ofFilter : Filter → Form
  | .comparison .. => comparison
  | .and .. | .or .. => binary
  | .not _ => negation
  | .contains .. | .startsWith .. | .endsWith .. => test
  | .isNull _ => null
  | .isNotNull _ => notNull

end Form

namespace Style

variable {style : Style}

theorem testTokens_append_inj {column column' : String} {n n' : Nat} {a a' : Anchor}
    {r s : List Token}
    (h : style.testTokens column n a ++ r = style.testTokens column' n' a' ++ s) :
    column = column' ∧ (style.matching = .caseSensitive → a = a') ∧ r = s := by
  unfold testTokens at h
  cases hm : style.matching with
  | driverDefault | caseInsensitive => simpa [hm] using h
  | caseSensitive =>
    rw [hm] at h
    cases a <;> cases a' <;> simp at h ⊢
    · exact h
    · exact ⟨h.1, h.2.2⟩
    · exact ⟨h.1, h.2.2⟩

/-- How a test of text starts. -/
theorem form_testTokens (hup : style.dialect.upperFunction ≠ "NOT") (column : String) (n : Nat)
    (a : Anchor) (r : List Token) :
    Form.ofTokens (style.testTokens column n a ++ r) = .test ∧
      (style.testTokens column n a ++ r).head? ≠ some (.word "NOT") := by
  unfold testTokens
  split <;> simp [Form.ofTokens, hup]

theorem head_filterTokens (hup : style.dialect.upperFunction ≠ "NOT") (f : Filter)
    (r : List Token) : (style.filterTokens f ++ r).head? ≠ some (.word "NOT") := by
  cases f with
  | comparison column op operand => cases operand <;> simp [filterTokens]
  | contains column l | startsWith column l | endsWith column l =>
    exact (form_testTokens hup column _ _ r).2
  | _ => simp [filterTokens]

theorem form_parenthesis {ts : List Token} (h : ts.head? ≠ some (.word "NOT")) :
    Form.ofTokens (.symbol '(' :: ts) = .binary := by
  unfold Form.ofTokens
  split <;> simp_all

theorem form_filterTokens (hup : style.dialect.upperFunction ≠ "NOT") (f : Filter)
    (r : List Token) : Form.ofTokens (style.filterTokens f ++ r) = .ofFilter f := by
  cases f with
  | comparison column op operand =>
    cases op <;> cases operand <;>
      simp [filterTokens, Comparison.tokens, Form.ofTokens, Form.ofFilter]
  | contains column l | startsWith column l | endsWith column l =>
    exact (form_testTokens hup column _ _ r).1
  | and left right | or left right =>
    simp only [filterTokens, List.cons_append, List.append_assoc]
    exact form_parenthesis (head_filterTokens hup left _)
  | _ => rfl

theorem form_eq (hup : style.dialect.upperFunction ≠ "NOT") {f g : Filter} {r s : List Token}
    (h : style.filterTokens f ++ r = style.filterTokens g ++ s) :
    Form.ofFilter f = .ofFilter g := by
  rw [← form_filterTokens hup f r, h, form_filterTokens hup g s]

/-- The tests of text are one family. -/
theorem eq_test {f : Filter} (h : Form.ofFilter f = .test) :
    ∃ column n anchor, (∀ style : Style, style.filterTokens f = style.testTokens column n anchor) ∧
      ∀ matching, f.shape matching = Filter.testShape matching column anchor := by
  cases f with
  | contains column l => exact ⟨column, _, .anywhere, fun _ => rfl, fun _ => rfl⟩
  | startsWith column l => exact ⟨column, _, .start, fun _ => rfl, fun _ => rfl⟩
  | endsWith column l => exact ⟨column, _, .ending, fun _ => rfl, fun _ => rfl⟩
  | _ => cases h

theorem test_append_inj {f g : Filter} {r s : List Token} (hf : Form.ofFilter f = .test)
    (hg : Form.ofFilter g = .test)
    (h : style.filterTokens f ++ r = style.filterTokens g ++ s) :
    f.shape style.matching = g.shape style.matching ∧ r = s := by
  obtain ⟨column, n, a, hft, hfs⟩ := eq_test hf
  obtain ⟨column', n', a', hgt, hgs⟩ := eq_test hg
  rw [hft, hgt] at h
  obtain ⟨rfl, ha, rfl⟩ := testTokens_append_inj h
  refine ⟨?_, rfl⟩
  rw [hfs, hgs]
  cases hm : style.matching with
  | caseSensitive => rw [ha hm]
  | driverDefault | caseInsensitive => rfl

/-- The tokens of the condition are injective up to constants and up to what follows them. -/
def AppendInj (style : Style) (f : Filter) : Prop :=
  ∀ {g : Filter} {r s : List Token}, style.filterTokens f ++ r = style.filterTokens g ++ s →
    f.shape style.matching = g.shape style.matching ∧ r = s

theorem binary_append_inj {left right left' right' : Filter} {w w' : String} {r s : List Token}
    (hl : style.AppendInj left) (hr : style.AppendInj right)
    (h : .symbol '(' :: style.filterTokens left ++ .word w :: style.filterTokens right ++
        [.symbol ')'] ++ r =
      .symbol '(' :: style.filterTokens left' ++ .word w' :: style.filterTokens right' ++
        [.symbol ')'] ++ s) :
    w = w' ∧ left.shape style.matching = left'.shape style.matching ∧
      right.shape style.matching = right'.shape style.matching ∧ r = s := by
  simp only [List.cons_append, List.append_assoc, List.nil_append, List.cons.injEq,
    true_and] at h
  obtain ⟨hleft, h⟩ := hl h
  simp only [List.cons.injEq, Token.word.injEq] at h
  obtain ⟨hw, h⟩ := h
  obtain ⟨hright, h⟩ := hr h
  exact ⟨hw, hleft, hright, (List.cons.inj h).2⟩

/-- By induction on the condition. The first tokens tell the form of another one with the same
tokens; what joins two parts is told behind the first of them. -/
theorem filterTokens_append_inj (hup : style.dialect.upperFunction ≠ "NOT") (f : Filter) :
    style.AppendInj f := by
  induction f with
  | comparison column op operand =>
    intro g r s h
    have hform := form_eq hup h
    cases g with
    | comparison column' op' operand' =>
      simp only [filterTokens, List.cons_append, List.append_assoc, List.nil_append,
        List.cons.injEq, Token.quoted.injEq] at h
      obtain ⟨rfl, h⟩ := h
      obtain ⟨rfl, ht, rfl⟩ := Comparison.tokens_append_inj operand.token_ne operand'.token_ne h
      exact ⟨by rw [Filter.shape, Filter.shape, Operand.shape_eq ht], rfl⟩
    | _ => cases hform
  | and left right ihl ihr =>
    intro g r s h
    have hform := form_eq hup h
    cases g with
    | and left' right' =>
      obtain ⟨-, hl, hr, rfl⟩ := binary_append_inj ihl ihr h
      exact ⟨by rw [Filter.shape, Filter.shape, hl, hr], rfl⟩
    | or left' right' =>
      obtain ⟨hw, -⟩ := binary_append_inj ihl ihr h
      simp at hw
    | _ => cases hform
  | or left right ihl ihr =>
    intro g r s h
    have hform := form_eq hup h
    cases g with
    | or left' right' =>
      obtain ⟨-, hl, hr, rfl⟩ := binary_append_inj ihl ihr h
      exact ⟨by rw [Filter.shape, Filter.shape, hl, hr], rfl⟩
    | and left' right' =>
      obtain ⟨hw, -⟩ := binary_append_inj ihl ihr h
      simp at hw
    | _ => cases hform
  | not inner ih =>
    intro g r s h
    have hform := form_eq hup h
    cases g with
    | not inner' =>
      simp only [filterTokens, List.cons_append, List.append_assoc, List.nil_append,
        List.cons.injEq, true_and] at h
      obtain ⟨hi, h⟩ := ih h
      exact ⟨by rw [Filter.shape, Filter.shape, hi], (List.cons.inj h).2⟩
    | _ => cases hform
  | contains column l | startsWith column l | endsWith column l =>
    intro g r s h
    exact test_append_inj rfl (form_eq hup h).symm h
  | isNull column =>
    intro g r s h
    have hform := form_eq hup h
    cases g with
    | isNull column' =>
      simp only [filterTokens, List.cons_append, List.nil_append, List.cons.injEq,
        Token.quoted.injEq, true_and] at h
      obtain ⟨rfl, rfl⟩ := h
      exact ⟨rfl, rfl⟩
    | _ => cases hform
  | isNotNull column =>
    intro g r s h
    have hform := form_eq hup h
    cases g with
    | isNotNull column' =>
      simp only [filterTokens, List.cons_append, List.nil_append, List.cons.injEq,
        Token.quoted.injEq, true_and] at h
      obtain ⟨rfl, rfl⟩ := h
      exact ⟨rfl, rfl⟩
    | _ => cases hform

end Style

/-! ## Lists -/

section Lists

variable {α : Type} {tokens : α → List Token} {stop : Token}

/-- The tokens of items are injective up to what follows them, where `stop` does not follow. -/
def AppendInjUnless (stop : Token) (tokens : α → List Token) : Prop :=
  ∀ {x y r s}, r.head? ≠ some stop → s.head? ≠ some stop → tokens x ++ r = tokens y ++ s →
    x = y ∧ r = s

/-- What follows a list. -/
def Ends (stop : Token) (r : List Token) : Prop :=
  r.head? ≠ some stop ∧ r.head? ≠ some (.symbol ',')

/-- A list ends where no comma follows an item, by induction on the list. -/
theorem commaTokens_append_inj (hstop : stop ≠ .symbol ',') (hitem : AppendInjUnless stop tokens)
    {xs ys : List α} (hx : xs ≠ []) (hy : ys ≠ []) {r s : List Token} (hr : Ends stop r)
    (hs : Ends stop s) (h : commaTokens tokens xs ++ r = commaTokens tokens ys ++ s) :
    xs = ys ∧ r = s := by
  have hcomma : ∀ ts, (Token.symbol ',' :: ts).head? ≠ some stop := by
    intro ts hts
    exact hstop (Option.some.inj hts).symm
  induction xs using commaTokens.induct generalizing ys with
  | case1 => exact absurd rfl hx
  | case2 x =>
    obtain _ | ⟨y, _ | ⟨y', ys⟩⟩ := ys
    · exact absurd rfl hy
    · obtain ⟨rfl, rfl⟩ := hitem hr.1 hs.1 h
      exact ⟨rfl, rfl⟩
    · simp only [commaTokens, List.append_assoc, List.cons_append] at h
      obtain ⟨-, rfl⟩ := hitem hr.1 (hcomma _) h
      exact absurd rfl hr.2
  | case3 x x' xs ih =>
    obtain _ | ⟨y, _ | ⟨y', ys⟩⟩ := ys
    · exact absurd rfl hy
    · simp only [commaTokens, List.append_assoc, List.cons_append] at h
      obtain ⟨-, rfl⟩ := hitem (hcomma _) hs.1 h
      exact absurd rfl hs.2
    · simp only [commaTokens, List.append_assoc, List.cons_append] at h
      obtain ⟨rfl, hrest⟩ := hitem (hcomma _) (hcomma _) h
      obtain ⟨heq, rfl⟩ := ih (List.cons_ne_nil x' xs) (List.cons_ne_nil y' ys)
        (List.cons.inj hrest).2
      exact ⟨by rw [heq], rfl⟩

end Lists

theorem ProjectedColumn.tokens_append_inj :
    AppendInjUnless (.word "AS") ProjectedColumn.tokens := by
  rintro ⟨c, a?⟩ ⟨c', a'?⟩ r s hr hs h
  cases a? <;> cases a'? <;> simp [tokens] at h
  · exact ⟨by rw [h.1], h.2⟩
  · exact absurd (by rw [h.2]; rfl) hr
  · exact absurd (by rw [← h.2]; rfl) hs
  · exact ⟨by rw [h.1, h.2.1], h.2.2⟩

theorem OrderKey.tokens_append_inj : AppendInjUnless (.word "AS") OrderKey.tokens := by
  rintro ⟨c, d⟩ ⟨c', d'⟩ r s - - h
  cases d <;> cases d' <;> simp_all [tokens]

/-! ## Statements -/

namespace Projection

theorem lead_ne_top (p : Projection) : p.lead ≠ .word "TOP" := by
  match p with
  | .all | .columns [] | .columns (_ :: _) => simp [lead]

theorem tokens_append_inj {p q : Projection} {r s : List Token}
    (h : p.tokens ++ .word "FROM" :: r = q.tokens ++ .word "FROM" :: s) : p = q ∧ r = s := by
  have hlead : p.lead = q.lead := by
    have hhead := congrArg List.head? h
    rw [head_tokens, head_tokens] at hhead
    exact Option.some.inj hhead
  match p, q with
  | .all, .all => simpa [tokens] using h
  | .columns [], .columns [] => simpa [tokens, commaTokens] using h
  | .columns (c :: cs), .columns (c' :: cs') =>
    obtain ⟨h, hrest⟩ := commaTokens_append_inj (by simp) ProjectedColumn.tokens_append_inj
      (List.cons_ne_nil c cs) (List.cons_ne_nil c' cs') (by simp [Ends]) (by simp [Ends]) h
    exact ⟨by rw [h], (List.cons.inj hrest).2⟩
  | .all, .columns [] | .all, .columns (_ :: _) | .columns [], .all
  | .columns [], .columns (_ :: _) | .columns (_ :: _), .all | .columns (_ :: _), .columns [] =>
    cases hlead

end Projection

theorem orderingTokens_append_inj {ks ls : List OrderKey} {r s : List Token}
    (hr : r.head? ∉ [some (.word "ORDER"), some (.word "AS"), some (.symbol ',')])
    (hs : s.head? ∉ [some (.word "ORDER"), some (.word "AS"), some (.symbol ',')])
    (h : orderingTokens ks ++ r = orderingTokens ls ++ s) : ks = ls ∧ r = s := by
  simp only [List.mem_cons, List.not_mem_nil, or_false, not_or] at hr hs
  match ks, ls with
  | [], [] => exact ⟨rfl, h⟩
  | k :: ks, l :: ls =>
    simp only [orderingTokens, List.cons_append, List.cons.injEq, true_and] at h
    exact commaTokens_append_inj (by simp) OrderKey.tokens_append_inj (List.cons_ne_nil k ks)
      (List.cons_ne_nil l ls) hr.2 hs.2 h
  | [], _ :: _ => exact absurd (congrArg List.head? h) hr.1
  | _ :: _, [] => exact absurd (congrArg List.head? h).symm hs.1

namespace Dialect

variable {d : Dialect} {m n : Option Nat}

theorem leadingLimitTokens_append_inj {r s : List Token} (hr : r.head? ≠ some (.word "TOP"))
    (hs : s.head? ≠ some (.word "TOP"))
    (h : d.leadingLimitTokens m ++ r = d.leadingLimitTokens n ++ s) :
    (d.limitStyle = .top → m = n) ∧ r = s := by
  unfold leadingLimitTokens at h
  cases hd : d.limitStyle with
  | limit => simpa [hd] using h
  | top =>
    rw [hd] at h
    match m, n with
    | none, none => exact ⟨fun _ => rfl, h⟩
    | some m, some n =>
      simp only [List.cons_append, List.nil_append, List.cons.injEq, Token.word.injEq,
        true_and] at h
      exact ⟨fun _ => by rw [Nat.repr_injective h.1], h.2⟩
    | none, some _ => exact absurd (congrArg List.head? h) hr
    | some _, none => exact absurd (congrArg List.head? h).symm hs

theorem trailingLimitTokens_inj (h : d.trailingLimitTokens m = d.trailingLimitTokens n) :
    d.limitStyle = .limit → m = n := by
  intro hd
  unfold trailingLimitTokens at h
  rw [hd] at h
  match m, n with
  | none, none => rfl
  | some m, some n =>
    simp only [List.cons.injEq, Token.word.injEq, true_and, and_true] at h
    rw [Nat.repr_injective h]
  | none, some _ | some _, none => cases h

theorem head_trailingLimit (d : Dialect) (n : Option Nat) :
    (d.trailingLimitTokens n).head? ∈ [none, some (.word "LIMIT")] := by
  unfold trailingLimitTokens
  split <;> simp

end Dialect

theorem Style.conditionTokens_append_inj {style : Style}
    (hup : style.dialect.upperFunction ≠ "NOT") {f g : Option Filter} {r s : List Token}
    (hr : r.head? ≠ some (.word "WHERE")) (hs : s.head? ≠ some (.word "WHERE"))
    (h : style.conditionTokens f ++ r = style.conditionTokens g ++ s) :
    f.map (Filter.shape style.matching) = g.map (Filter.shape style.matching) ∧ r = s := by
  match f, g with
  | none, none => exact ⟨rfl, h⟩
  | some f, some g =>
    simp only [conditionTokens, List.cons_append, List.cons.injEq, true_and] at h
    obtain ⟨hshape, rfl⟩ := style.filterTokens_append_inj hup f h
    exact ⟨by rw [Option.map_some, Option.map_some, hshape], rfl⟩
  | none, some _ => exact absurd (congrArg List.head? h) hr
  | some _, none => exact absurd (congrArg List.head? h).symm hs

theorem head_ordering (d : Dialect) (ks : List OrderKey) (n : Option Nat) :
    (orderingTokens ks ++ d.trailingLimitTokens n).head? ≠ some (.word "WHERE") := by
  have hlimit := d.head_trailingLimit n
  match ks with
  | [] =>
    intro h
    rw [orderingTokens, List.nil_append] at h
    simp [h] at hlimit
  | _ :: _ => simp [orderingTokens]

theorem Dialect.upperFunction_ne_not {d : Dialect} (hd : d ∈ Dialect.profiles) :
    d.upperFunction ≠ "NOT" := by
  revert d
  decide

namespace Selection

variable {d : Dialect} {matching : TextMatching} {a b : Selection}

/-- What follows the worksheet tells the condition, the order and a trailing limit. -/
theorem tailTokens_inj (hup : d.upperFunction ≠ "NOT")
    (h : a.tailTokens d matching = b.tailTokens d matching) :
    a.filter.map (Filter.shape matching) = b.filter.map (Filter.shape matching) ∧
      a.ordering = b.ordering ∧ (d.limitStyle = .limit → a.limit = b.limit) := by
  have hafter : ∀ n, (d.trailingLimitTokens n).head? ∉
      [some (.word "ORDER"), some (.word "AS"), some (.symbol ',')] := by
    intro n hn
    have hlimit := d.head_trailingLimit n
    simp only [List.mem_cons, List.not_mem_nil, or_false] at hn hlimit
    rcases hlimit with hlimit | hlimit <;> simp [hlimit] at hn
  simp only [tailTokens, List.append_assoc] at h
  obtain ⟨hfilter, h⟩ := Style.conditionTokens_append_inj hup
    (head_ordering d a.ordering a.limit) (head_ordering d b.ordering b.limit) h
  obtain ⟨hordering, h⟩ := orderingTokens_append_inj (hafter a.limit) (hafter b.limit) h
  exact ⟨hfilter, hordering, Dialect.trailingLimitTokens_inj h⟩

theorem tokens_inj (hup : d.upperFunction ≠ "NOT")
    (h : a.tokens d matching = b.tokens d matching) : a.Alike d matching b := by
  have hhead : ∀ (p : Projection) r, (p.tokens ++ Token.word "FROM" :: r).head? ≠
      some (.word "TOP") := by
    intro p r
    rw [p.head_tokens]
    exact fun hp => p.lead_ne_top (Option.some.inj hp)
  simp only [tokens, List.cons_append, List.append_assoc, List.cons.injEq, true_and] at h
  obtain ⟨hleading, h⟩ := Dialect.leadingLimitTokens_append_inj (hhead _ _) (hhead _ _) h
  obtain ⟨hprojection, h⟩ := Projection.tokens_append_inj h
  simp only [List.cons.injEq, Token.quoted.injEq] at h
  obtain ⟨hworksheet, htail⟩ := h
  obtain ⟨hfilter, hordering, htrailing⟩ := tailTokens_inj hup htail
  refine ⟨?_, hprojection, hordering, hworksheet, ?_, hfilter⟩
  · cases hd : d.limitStyle with
    | top => exact hleading hd
    | limit => exact htrailing hd
  · intro hd
    simpa only [Dialect.worksheetName, hd] using hworksheet

end Selection

/-- In the dialects that there are, whatever the names, statements of the same text are of
selections that only their constants tell apart. -/
theorem alike_of_text_eq {a b : Selection} {d : Dialect} (hd : d ∈ Dialect.profiles)
    {settings : Settings} {t u : Statement} (ht : Statement.ofSelection a d settings = .ok t)
    (hu : Statement.ofSelection b d settings = .ok u) (h : t.text = u.text) :
    a.Alike d settings.matching b := by
  have htokens : scan t.text.toList = .ok (a.tokens d settings.matching) := scan_statement hd ht
  rw [h, scan_statement hd hu] at htokens
  exact Selection.tokens_inj (Dialect.upperFunction_ne_not hd) (Except.ok.inj htokens).symm

/-- Names that spell other statements, and two tests of text that a pattern puts in the same
words. -/
theorem alike_of_text_eq_quoted :
    let d := Dialect.ofFormat .excel2007
    let projection := Projection.columns [⟨"a] AS [b", some "], ["⟩, ⟨"FROM", none⟩]
    let a : Selection :=
      { worksheet := "S]", projection
        filter := some (.contains "c] LIKE ? OR [d" ⟨.text "e", .text, 0⟩), limit := some 2 }
    let b : Selection :=
      { worksheet := "S]$", projection
        filter := some (.endsWith "c] LIKE ? OR [d" ⟨.text "f%", .text, 0⟩), limit := some 2 }
    let text := "SELECT TOP 2 [a]] AS [b] AS []], [], [FROM] FROM [S]]$] " ++
      "WHERE [c]] LIKE ? OR [d] LIKE ?"
    Statement.ofSelection a d {} = .ok ⟨text, [⟨.text "%e%", .text⟩]⟩ ∧
      Statement.ofSelection b d {} = .ok ⟨text, [⟨.text "%f[%]", .text⟩]⟩ ∧
      a.Alike d .driverDefault b := by
  intro d projection a b text
  have ha : Statement.ofSelection a d {} = .ok ⟨text, [⟨.text "%e%", .text⟩]⟩ :=
    eq_ok_of_toOption (by decide +kernel)
  have hb : Statement.ofSelection b d {} = .ok ⟨text, [⟨.text "%f[%]", .text⟩]⟩ :=
    eq_ok_of_toOption (by decide +kernel)
  exact ⟨ha, hb, alike_of_text_eq (by decide) ha hb rfl⟩

end WorkbookQuery
