/-
  The numbers of constants. Whatever is compiled numbers its constants from zero on in the order
  in which they stand, and looks for text only: each part of a body takes as many numbers as it
  has constants, and so does each call of a chain. Hence every compiled selection can be written,
  and a workbook translates whatever compiles (`compiled_is_written`).
-/
import WorkbookQuery.Proofs.Chain
import WorkbookQuery.Proofs.Writing
import WorkbookQuery.Session.Workbook

namespace WorkbookQuery

/-- As text every constant but null is what it shows. -/
theorem Literal.eq_of_typed_text {l l' : Literal} (hl : l.isNull = false)
    (h : Literal.typed l.value .text = .ok l') : l' = ⟨.text l.value.render, .text⟩ := by
  have hv : l.value.isNull = false := hl
  simp only [Literal.typed, Value.coerce, hv, Value.convert?, bind_eq_ok, pure_eq_ok] at h
  obtain ⟨_, hw, rfl⟩ := h
  cases hw
  rfl

/-! ## Bodies -/

namespace Term

/-- The term takes the numbers from `n` up to `n'`: a condition one for each constant, in order,
anything else none. -/
def Counted (n n' : Nat) : Term → Prop
  | .filter f => f.Numbered n ∧ f.TestsText ∧ n' = n + f.literals.length
  | .column _ | .literal _ => n' = n

variable {m : ColumnMap} {p : String} {e : Expr} {t l r : Term} {f g : Filter}
  {n n₁ n₂ n' : Nat}

theorem counted_of_asFilter (ht : t.Counted n n₁) (h : AsFilter t n₁ f n') :
    (filter f).Counted n n' := by
  cases h with
  | filter => exact ht
  | column =>
    have hn : n₁ = n := ht
    subst hn
    exact ⟨Filter.numbered_singleton.mpr rfl, trivial, rfl⟩

theorem counted_of_compares {op : Comparison} (hl : l.Counted n n₁) (hr : r.Counted n₁ n₂)
    (h : Compares op n₂ l r f n') : (filter f).Counted n n' := by
  have hn : n₂ = n := by
    cases h <;> exact Eq.trans hr hl
  subst hn
  cases h with
  | literal | mirrored => exact ⟨Filter.numbered_singleton.mpr rfl, trivial, rfl⟩
  | columns | isNull | isNotNull | nullIs | nullIsNot => exact ⟨rfl, trivial, rfl⟩

theorem counted_connective {op : BinaryOp} {connective : Filter → Filter → Filter}
    (hop : connective? op = some connective) (hf : (filter f).Counted n n₁)
    (hg : (filter g).Counted n₁ n') : (filter (connective f g)).Counted n n' := by
  obtain ⟨hnf, htf, rfl⟩ := hf
  obtain ⟨hng, htg, rfl⟩ := hg
  cases op <;> cases hop <;>
    exact ⟨Filter.numbered_append.mpr ⟨hnf, hng⟩, ⟨htf, htg⟩,
      by rw [Filter.literals, List.length_append, Nat.add_assoc]⟩

theorem counted_textTest {method c text : String} {test : String → BoundLiteral → Filter}
    {type : ScalarType} (htest : textTest? method = some test) :
    (filter (test c (Literal.bind ⟨.text text, type⟩ n))).Counted n (n + 1) := by
  obtain ⟨-, rfl⟩ | ⟨-, rfl⟩ | ⟨-, rfl⟩ := textTest?_cases htest <;>
    exact ⟨Filter.numbered_singleton.mpr rfl, ⟨text, rfl⟩, rfl⟩

/-- A body takes one number for each of its constants, by induction on the rules. -/
theorem counted_of_reads (h : Reads m p e n t n') : t.Counted n n' := by
  induction h with
  | member | index | constant => rfl
  | cast _ ih | convertColumn _ ih => exact ih
  | negate _ _ ih | convertLiteral _ _ ih => exact ih
  | textTest htest _ _ hl hl' ihtarget iharg =>
    have hn := Eq.trans iharg ihtarget
    subst hn
    rw [Literal.eq_of_typed_text hl hl']
    exact counted_textTest htest
  | comparison _ _ _ hcmp ihl ihr => exact counted_of_compares ihl ihr hcmp
  | connective hop _ hf _ hg ihl ihr =>
    exact counted_connective hop (counted_of_asFilter ihl hf) (counted_of_asFilter ihr hg)
  | @not _ _ f _ _ _ _ hf ih =>
    have hinner : (filter f).Counted _ _ := counted_of_asFilter ih hf
    exact hinner

theorem counted_of_filterOfExpr (h : filterOfExpr m p e n = .ok (f, n')) :
    (filter f).Counted n n' := by
  obtain ⟨t, n₁, ht, hf⟩ := reads_of_filterOfExpr h
  exact counted_of_asFilter (counted_of_reads ht) hf

/-- Columns take no numbers. -/
theorem eq_of_columnOfExpr {c : String} (h : columnOfExpr m p e n = .ok (c, n')) : n' = n :=
  counted_of_reads (reads_of_columnOfExpr h)

end Term

/-! ## Chains -/

namespace Selection

variable {m : ColumnMap} {s s' : Selection} {n n' : Nat}

theorem eq_of_fieldColumns {p : String} {fields : List (String × Expr)}
    {columns : List ProjectedColumn} (h : fieldColumns m p fields n = .ok (columns, n')) :
    n' = n := by
  induction fields generalizing n columns n' with
  | nil => cases h; rfl
  | cons field fields ih =>
    simp only [fieldColumns, bind_eq_ok, pure_eq_ok, Prod.exists, Prod.mk.injEq] at h
    obtain ⟨c, n₁, hc, rest, n₂, hrest, -, rfl⟩ := h
    rw [ih hrest, Term.eq_of_columnOfExpr hc]

/-- The selection can be written, and `n` constants have been numbered. -/
def Counted (s : Selection) (n : Nat) : Prop := s.Writable ∧ s.parameterCount = n

theorem counted_narrow {f : Filter} (hs : s.Counted n) (hf : (Term.filter f).Counted n n') :
    (s.narrow f).Counted n' := by
  obtain ⟨hw, rfl⟩ := hs
  obtain ⟨hn, ht, rfl⟩ := hf
  unfold Counted Writable narrow parameterCount literals at *
  cases hfilter : s.filter with
  | none =>
    rw [hfilter] at hn
    constructor
    · rintro g ⟨⟩
      exact ⟨hn, ht⟩
    · simp
  | some earlier =>
    rw [hfilter] at hn
    obtain ⟨hne, hte⟩ := hw earlier hfilter
    constructor
    · rintro g ⟨⟩
      exact ⟨Filter.numbered_append.mpr ⟨hne, by simpa [Filter.Numbered] using hn⟩, hte, ht⟩
    · simp [Filter.literals]

/-- A call numbers its constants where the calls before it stopped. -/
theorem Applies.counted {method : String} {args : List Expr}
    (h : Applies m method args s n s' n') (hs : s.Counted n) : s'.Counted n' := by
  cases h with
  | filter _ hf => exact counted_narrow hs (Term.counted_of_filterOfExpr hf)
  | firstWhere _ _ hf => exact counted_narrow hs (Term.counted_of_filterOfExpr hf)
  | ordering _ _ _ hc => rw [Term.eq_of_columnOfExpr hc]; exact hs
  | record _ hcolumns => rw [eq_of_fieldColumns hcolumns]; exact hs
  | column _ hc => rw [Term.eq_of_columnOfExpr hc]; exact hs
  | take | first | identity | asRows => exact hs

/-- So does a chain, by induction on its calls. -/
theorem Drafts.counted {worksheet : String} {e : Expr} (h : Drafts m worksheet e s n) :
    s.Counted n := by
  induction h with
  | source => exact ⟨nofun, rfl⟩
  | call _ hcall ih => exact hcall.counted ih

theorem writable_of_ofExpr {worksheet : String} {e : Expr}
    (h : Selection.ofExpr e m worksheet = .ok s) : s.Writable := by
  obtain ⟨n, hn⟩ := ofExpr_eq_ok.mp h
  exact hn.counted.1

/-- What can be written is written, unless the settings do not suit the dialect. -/
theorem Writable.ofSelection_eq (h : s.Writable) (d : Dialect) (settings : Settings) :
    Statement.ofSelection s d settings = (settings.validate d).map fun _ =>
      ⟨String.ofList (s.text d settings.matching), s.parameters d settings.matching⟩ := by
  cases hv : settings.validate d with
  | ok u => exact ofSelection_eq_ok.mpr ⟨hv, h, rfl⟩
  | error fault => rw [Statement.ofSelection, hv]; rfl

end Selection

/-- An expression is translated when it compiles and what it selects is written. -/
theorem translate_eq_ok {e : Expr} {m : ColumnMap} {worksheet : String} {d : Dialect}
    {settings : Settings} {tr : Translation} :
    translate e m worksheet d settings = .ok tr ↔
      Selection.ofExpr e m worksheet = .ok tr.selection ∧
        Statement.ofSelection tr.selection d settings = .ok tr.statement := by
  simp only [translate, bind_eq_ok, pure_eq_ok]
  constructor
  · rintro ⟨s, hs, t, ht, rfl⟩
    exact ⟨hs, ht⟩
  · rintro ⟨hs, ht⟩
    exact ⟨_, hs, _, ht, rfl⟩

/-! ## Workbooks -/

namespace Workbook

/-- The workbooks that there are: opened at a path, and then under settings that suit the
dialect they lead to. -/
inductive Opened : Workbook → Prop where
  | ofPath {path w} : ofPath path = .ok w → Opened w
  | withSettings {w w' settings} : Opened w → w.withSettings settings = .ok w' → Opened w'

variable {w : Workbook}

/-- The dialect is that of the settings, which suit it. -/
theorem Opened.validated (h : w.Opened) :
    w.dialect = w.settings.dialectFor w.file.format ∧
      w.settings.validate w.dialect = .ok () := by
  cases h with
  | ofPath h =>
    simp only [Workbook.ofPath, bind_eq_ok, pure_eq_ok] at h
    obtain ⟨file, -, rfl⟩ := h
    exact ⟨rfl, rfl⟩
  | withSettings _ h =>
    simp only [Workbook.withSettings, bind_eq_ok, pure_eq_ok] at h
    obtain ⟨⟨⟩, hv, rfl⟩ := h
    exact ⟨rfl, hv⟩

theorem Opened.translate_eq (h : w.Opened) {t : Target} (q : Query t) :
    w.translate q = (Selection.ofExpr q.expr q.columns q.worksheet).map fun s =>
      ⟨s, String.ofList (s.text w.dialect w.settings.matching),
        s.parameters w.dialect w.settings.matching⟩ := by
  rw [translate, Query.translate, WorkbookQuery.translate]
  cases hs : Selection.ofExpr q.expr q.columns q.worksheet with
  | error fault => rfl
  | ok s =>
    rw [ok_bind, (Selection.writable_of_ofExpr hs).ofSelection_eq, h.validated.2]
    rfl

end Workbook

/-- The constants of a compiled selection are numbered from zero on in the order in which they
stand, and its text tests look for text. So it is written whenever the settings suit the
dialect, and never refused as it is; and a workbook, whose settings do suit its dialect, fails
to translate a query only when, and as, the query fails to compile. -/
theorem compiled_is_written :
    (∀ {e : Expr} {m : ColumnMap} {worksheet : String} {s : Selection},
      Selection.ofExpr e m worksheet = .ok s →
        s.literals.map BoundLiteral.position = List.range s.literals.length ∧
        (∀ f ∈ s.filter, f.TestsText) ∧
        ∀ (d : Dialect) (settings : Settings),
          ((∃ t, Statement.ofSelection s d settings = .ok t) ↔ settings.validate d = .ok ()) ∧
          ∀ reason, Statement.ofSelection s d settings ≠ .error (.invalidModel reason)) ∧
    ∀ {w : Workbook}, w.Opened → ∀ {t : Target} (q : Query t) (fault : Fault),
      w.translate q = .error fault ↔
        Selection.ofExpr q.expr q.columns q.worksheet = .error fault := by
  constructor
  · intro e m worksheet s hs
    have hw := Selection.writable_of_ofExpr hs
    refine ⟨?_, fun f hf => (hw f hf).2, fun d settings => ?_⟩
    · unfold Selection.literals
      cases hf : s.filter with
      | none => rfl
      | some f =>
        rw [List.range_eq_range']
        exact (hw f hf).1
    · rw [hw.ofSelection_eq]
      unfold Settings.validate
      split <;> simp [Except.map]
  · intro w hw t q fault
    rw [hw.translate_eq]
    cases Selection.ofExpr q.expr q.columns q.worksheet <;> simp [Except.map]

/-- Two conditions, a column alone, a negation and a number to look for as text, on a workbook
whose settings read it as another format. -/
theorem compiled_is_written_mixed :
    let q : Query .rows :=
      (((Query.ofWorksheet .rows "S").filter fun x =>
        .binary .or (.binary .lt (.ofValue (.integer 30)) (.member x "age"))
          (.member x "active")).filter fun x =>
        .unary .not (.call (.member x "city") "contains" [.ofValue (.integer 7)])).first
    let s : Selection :=
      { worksheet := "S"
        filter := some (.and
          (.or (.comparison "age" .gt (.literal ⟨.integer 30, .integer, 0⟩))
            (.comparison "active" .eq (.literal ⟨.boolean true, .boolean, 1⟩)))
          (.not (.contains "city" ⟨.text "7", .text, 2⟩)))
        limit := some 1
        cardinality := .first }
    let settings : Settings := { format? := some .excel2007, matching := .caseSensitive }
    let w : Workbook := ⟨⟨⟨"a.csv"⟩, .csv⟩, settings, .ofFormat .excel2007⟩
    Selection.ofExpr q.expr q.columns q.worksheet = .ok s ∧
      s.literals.map BoundLiteral.position = [0, 1, 2] ∧
      (∃ t, Statement.ofSelection s w.dialect settings = .ok t) ∧
      w.Opened ∧ ∀ fault, w.translate q ≠ .error fault := by
  intro q s settings w
  have hs : Selection.ofExpr q.expr q.columns q.worksheet = .ok s :=
    eq_ok_of_toOption (by decide +kernel)
  have hpath : Workbook.ofPath ⟨"a.csv"⟩ = .ok ⟨⟨⟨"a.csv"⟩, .csv⟩, {}, .ofFormat .csv⟩ :=
    eq_ok_of_toOption (by decide +kernel)
  have hsettings :
      Workbook.withSettings ⟨⟨⟨"a.csv"⟩, .csv⟩, {}, .ofFormat .csv⟩ settings = .ok w := rfl
  have hw : w.Opened := .withSettings (.ofPath hpath) hsettings
  obtain ⟨hpositions, -, hwritten⟩ := compiled_is_written.1 hs
  refine ⟨hs, hpositions, (hwritten w.dialect settings).1.mpr rfl, hw, fun fault h => ?_⟩
  have hfault := (compiled_is_written.2 hw q fault).mp h
  rw [hs] at hfault
  cases hfault

end WorkbookQuery
