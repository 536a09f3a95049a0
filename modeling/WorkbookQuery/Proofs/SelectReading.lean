/-
  Reading back the columns and the worksheet of a statement. What a driver without conditions
  takes from a statement's text is what the selection says, whatever the names are and whatever
  stands in front of the columns or behind the worksheet (`ofText_statement`).
-/
import WorkbookQuery.Proofs.Tokens
import WorkbookQuery.Statement.Select

namespace WorkbookQuery

/-- The columns with their names in the result, or none for all of them. -/
def Projection.names : Projection → Option (List (String × Option String))
  | .all => none
  | .columns cs => some (cs.map fun c => (c.column, c.alias?))

namespace SelectTarget

/-! ## Worksheets -/

/-- One suffix is taken off, and only one. -/
theorem stripSuffix_cases (w : String) :
    stripSuffix w ++ "$" = w ∨ stripSuffix w = w ∧ w.toList.getLast? ≠ some '$' := by
  unfold stripSuffix
  split
  · next h =>
    left
    obtain ⟨cs, hcs⟩ := List.getLast?_eq_some_iff.mp h
    rw [← String.toList_inj, String.toList_append, String.toList_ofList, hcs]
    rw [List.dropLast_concat]
    rfl
  · next h => exact .inr ⟨rfl, h⟩

theorem stripSuffix_append (w : String) : stripSuffix (w ++ "$") = w := by
  have h : (w ++ "$").toList = w.toList ++ ['$'] := by
    rw [String.toList_append]
    rfl
  rw [stripSuffix, h, List.getLast?_concat, if_pos rfl, List.dropLast_concat]
  exact String.ofList_toList

/-- The suffix that a dialect adds is taken off again. -/
theorem stripSuffix_worksheetName (d : Dialect) (w : String) :
    stripSuffix (d.worksheetName w) = stripSuffix w := by
  unfold Dialect.worksheetName
  split
  · split
    · rfl
    · next h => rw [stripSuffix_append, stripSuffix, if_neg h]
  · rfl

/-! ## Columns -/

theorem isKeyword_from_as : (Token.word "FROM").isKeyword "AS" = false := by decide

theorem isKeyword_as : (Token.word "AS").isKeyword "AS" = true := by decide

/-- A column with another one behind it. -/
theorem readColumns?_comma (c : ProjectedColumn) (r : List Token) :
    readColumns? .column (c.tokens ++ .symbol ',' :: r) =
      (readColumns? .column r).map fun (cs, rest) => ((c.column, c.alias?) :: cs, rest) := by
  obtain ⟨column, alias?⟩ := c
  cases alias? with
  | none => simp [ProjectedColumn.tokens, readColumns?, Token.identifier?, Token.isKeyword]
  | some a => simp [ProjectedColumn.tokens, readColumns?, Token.identifier?, isKeyword_as]

/-- The last column. -/
theorem readColumns?_from (c : ProjectedColumn) (r : List Token) :
    readColumns? .column (c.tokens ++ .word "FROM" :: r) =
      some ([(c.column, c.alias?)], .word "FROM" :: r) := by
  obtain ⟨column, alias?⟩ := c
  cases alias? with
  | none => simp [ProjectedColumn.tokens, readColumns?, Token.identifier?, isKeyword_from_as]
  | some a => simp [ProjectedColumn.tokens, readColumns?, Token.identifier?, isKeyword_as]

theorem readColumns?_tokens {cs : List ProjectedColumn} (hcs : cs ≠ []) (r : List Token) :
    readColumns? .column (commaTokens ProjectedColumn.tokens cs ++ .word "FROM" :: r) =
      some (cs.map fun c => (c.column, c.alias?), .word "FROM" :: r) := by
  induction cs using commaTokens.induct with
  | case1 => exact absurd rfl hcs
  | case2 c => exact readColumns?_from c r
  | case3 c c' cs ih =>
    rw [commaTokens, List.append_assoc, List.cons_append, readColumns?_comma,
      ih (List.cons_ne_nil c' cs)]
    rfl

theorem readProjection?_tokens {p : Projection} (hp : p ≠ .columns []) (r : List Token) :
    readProjection? (p.tokens ++ .word "FROM" :: r) = some (p.names, .word "FROM" :: r) := by
  match p with
  | .all => rfl
  | .columns [] => exact absurd rfl hp
  | .columns (c :: cs) =>
    have hread := readColumns?_tokens (List.cons_ne_nil c cs) r
    have hlead := Projection.head_tokens (.columns (c :: cs)) r
    obtain ⟨ts, hts⟩ := List.head?_eq_some_iff.mp hlead
    rw [Projection.tokens] at hts
    rw [hts] at hread
    rw [Projection.tokens, hts, readProjection?, hread]
    · rfl
    · intro rest h
      cases h

theorem isKeyword_lead (p : Projection) : p.lead.isKeyword "TOP" = false := by
  match p with
  | .all | .columns (_ :: _) => rfl
  | .columns [] => decide

/-- A limit in front of the columns is passed over. -/
theorem skipTop_tokens (d : Dialect) (limit : Option Nat) (p : Projection) (r : List Token) :
    skipTop (d.leadingLimitTokens limit ++ (p.tokens ++ .word "FROM" :: r)) =
      p.tokens ++ .word "FROM" :: r := by
  have htop : (Token.word "TOP").isKeyword "TOP" = true := by decide
  have hnone : skipTop (p.tokens ++ .word "FROM" :: r) = p.tokens ++ .word "FROM" :: r := by
    obtain ⟨ts, hts⟩ := List.head?_eq_some_iff.mp (p.head_tokens r)
    rw [hts, skipTop, isKeyword_lead]
    rfl
  unfold Dialect.leadingLimitTokens
  split
  · rw [List.cons_append, skipTop, htop]
    rfl
  · exact hnone

/-! ## Statements -/

theorem ofTokens?_tokens {s : Selection} (hp : s.projection ≠ .columns []) (d : Dialect)
    (matching : TextMatching) :
    ofTokens? (s.tokens d matching) = some ⟨s.projection.names, stripSuffix s.worksheet⟩ := by
  have hselect : (Token.word "SELECT").isKeyword "SELECT" = true := by decide
  have hfrom : (Token.word "FROM").isKeyword "FROM" = true := by decide
  simp only [Selection.tokens, List.cons_append, List.append_assoc, ofTokens?]
  rw [if_pos hselect, skipTop_tokens, readProjection?_tokens hp]
  simp [readFrom?, hfrom, Token.identifier?, stripSuffix_worksheetName]

end SelectTarget

/-- In the dialects that there are, a statement that reads all columns or some is read back:
its columns are those of the selection, and its worksheet is that of the selection without one
suffix. -/
theorem ofText_statement {s : Selection} (hp : s.projection ≠ .columns []) {d : Dialect}
    (hd : d ∈ Dialect.profiles) {settings : Settings} {t : Statement}
    (h : Statement.ofSelection s d settings = .ok t) :
    ∃ w, SelectTarget.ofText t.text = .ok ⟨s.projection.names, w⟩ ∧
      (w ++ "$" = s.worksheet ∨ w = s.worksheet ∧ s.worksheet.toList.getLast? ≠ some '$') := by
  refine ⟨SelectTarget.stripSuffix s.worksheet, ?_, SelectTarget.stripSuffix_cases s.worksheet⟩
  have htokens := SelectTarget.ofTokens?_tokens hp d settings.matching
  rw [SelectTarget.ofText, scan_statement hd h, ok_bind, htokens]
  rfl

/-- Names that spell keywords or hold quotes, a line break and a question mark. -/
theorem ofText_statement_keywords :
    let s : Selection :=
      { worksheet := "?]$$"
        projection := .columns [⟨"TOP", some "AS"⟩, ⟨"a\n'\"[", none⟩, ⟨"FROM", some "], [b"⟩]
        filter := some (.not (.startsWith "SELECT" ⟨.text "c", .text, 0⟩))
        ordering := [⟨"ORDER BY", .descending⟩], limit := some 1 }
    let t : Statement :=
      { text := "SELECT TOP 1 [TOP] AS [AS], [a\n'\"[], [FROM] AS []], [b] FROM [?]]$$] " ++
          "WHERE (NOT [SELECT] LIKE ?) ORDER BY [ORDER BY] DESC"
        parameters := [⟨.text "c%", .text⟩] }
    Statement.ofSelection s (.ofFormat .preExcel2007) {} = .ok t ∧
      ∃ w, SelectTarget.ofText t.text = .ok
          ⟨some [("TOP", some "AS"), ("a\n'\"[", none), ("FROM", some "], [b")], w⟩ ∧
        (w ++ "$" = s.worksheet ∨ w = s.worksheet ∧ s.worksheet.toList.getLast? ≠ some '$') := by
  intro s t
  have h : Statement.ofSelection s (.ofFormat .preExcel2007) {} = .ok t :=
    eq_ok_of_toOption (by decide +kernel)
  exact ⟨h, ofText_statement (by decide) (by decide) h⟩

end WorkbookQuery
