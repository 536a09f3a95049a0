/-
  Placeholders and parameters. A statement binds one parameter for every constant of its
  selection, and its text has one placeholder for each of them (`placeholders_aligned`): no
  name, with whatever quotes and question marks in it, and no escape clause shifts the count.
-/
import WorkbookQuery.Proofs.Tokens

namespace WorkbookQuery

theorem count_placeholder_commaTokens {α : Type} {tokens : α → List Token}
    (h : ∀ x, (tokens x).count (.symbol '?') = 0) (xs : List α) :
    (commaTokens tokens xs).count (.symbol '?') = 0 := by
  induction xs using commaTokens.induct with
  | case1 => rfl
  | case2 x => exact h x
  | case3 x y rest ih => simp [commaTokens, h x, ih]

theorem count_placeholder_projection (p : Projection) : p.tokens.count (.symbol '?') = 0 := by
  cases p with
  | all => rfl
  | columns cs =>
    refine count_placeholder_commaTokens (fun c => ?_) cs
    unfold ProjectedColumn.tokens
    split <;> simp

theorem count_placeholder_ordering (keys : List OrderKey) :
    (orderingTokens keys).count (.symbol '?') = 0 := by
  cases keys with
  | nil => rfl
  | cons k keys =>
    have h : ∀ k : OrderKey, k.tokens.count (.symbol '?') = 0 := by
      intro k
      unfold OrderKey.tokens
      split <;> simp
    simp [orderingTokens, count_placeholder_commaTokens h]

theorem Dialect.count_placeholder_limits (d : Dialect) (limit : Option Nat) :
    (d.leadingLimitTokens limit).count (.symbol '?') = 0 ∧
      (d.trailingLimitTokens limit).count (.symbol '?') = 0 := by
  unfold leadingLimitTokens trailingLimitTokens
  constructor
  · split <;> simp
  · split <;> simp

namespace Style

theorem count_placeholder_testTokens (style : Style) (column : String) (length : Nat)
    (anchor : Anchor) : (style.testTokens column length anchor).count (.symbol '?') = 1 := by
  have hclause : style.dialect.likeEscape.tokens.count (.symbol '?') = 0 := by
    cases style.dialect.likeEscape <;> rfl
  unfold testTokens
  split <;> simp [hclause]

theorem count_placeholder_filterTokens (style : Style) (f : Filter) :
    (style.filterTokens f).count (.symbol '?') = f.literals.length := by
  induction f with
  | comparison column op operand =>
    have hop : op.tokens.count (.symbol '?') = 0 := by cases op <;> rfl
    cases operand <;> simp [filterTokens, Operand.token, Filter.literals, hop]
  | and left right ihl ihr | or left right ihl ihr =>
    simp [filterTokens, Filter.literals, ihl, ihr]
  | not inner ih => simp [filterTokens, Filter.literals, ih]
  | contains column l | startsWith column l | endsWith column l =>
    exact style.count_placeholder_testTokens column _ _
  | isNull column | isNotNull column => simp [filterTokens, Filter.literals]

end Style

theorem count_placeholder_tokens (s : Selection) (d : Dialect) (matching : TextMatching) :
    (s.tokens d matching).count (.symbol '?') = s.parameterCount := by
  have hcondition : (Style.conditionTokens ⟨d, matching⟩ s.filter).count (.symbol '?') =
      s.parameterCount := by
    unfold Selection.parameterCount Selection.literals
    cases s.filter with
    | none => rfl
    | some f => simp [Style.conditionTokens, Style.count_placeholder_filterTokens]
  obtain ⟨hleading, htrailing⟩ := d.count_placeholder_limits s.limit
  simp [Selection.tokens, Selection.tailTokens, hcondition, hleading, htrailing,
    count_placeholder_projection, count_placeholder_ordering]

/-- In the dialects that there are, the placeholders of a statement, its parameters and the
constants of its selection are equally many. -/
theorem placeholders_aligned {s : Selection} {d : Dialect} (hd : d ∈ Dialect.profiles)
    {settings : Settings} {t : Statement} (h : Statement.ofSelection s d settings = .ok t) :
    t.placeholderCount = t.parameters.length ∧ t.parameters.length = s.parameterCount := by
  have hcount := Token.countPlaceholders_of_scan (scan_statement hd h)
  rw [count_placeholder_tokens] at hcount
  have hlength : t.parameters.length = s.parameterCount := by
    obtain ⟨-, -, rfl⟩ := ofSelection_eq_ok.mp h
    exact s.length_parameters d settings.matching
  exact ⟨hcount.trans hlength.symm, hlength⟩

/-- Question marks, quotes and brackets in every name, and a text test with an escape clause. -/
theorem placeholders_aligned_names :
    let s : Selection :=
      { worksheet := "Q?\"1\""
        projection := .columns [⟨"a?", some "'?'"⟩, ⟨"?]", none⟩]
        filter := some (.and (.comparison "n\"?" .ge (.literal ⟨.integer 1, .integer, 0⟩))
          (.contains "who?" ⟨.text "5%?", .text, 1⟩))
        limit := some 3 }
    let t : Statement :=
      { text := "SELECT \"a?\" AS \"'?'\", \"?]\" FROM \"Q?\"\"1\"\"\" WHERE " ++
          "(\"n\"\"?\" >= ? AND \"who?\" LIKE ? ESCAPE '\\') LIMIT 3"
        parameters := [⟨.integer 1, .integer⟩, ⟨.text "%5\\%?%", .text⟩] }
    Statement.ofSelection s .ansi {} = .ok t ∧
      t.placeholderCount = t.parameters.length ∧ t.parameters.length = s.parameterCount := by
  intro s t
  have h : Statement.ofSelection s .ansi {} = .ok t :=
    eq_ok_of_toOption (by decide +kernel)
  exact ⟨h, placeholders_aligned (by decide) h⟩

end WorkbookQuery
