/-
  What the bodies of lambdas stand for, as rules. `Reads m p e n t n'` says that over the
  parameter `p` the expression `e` stands for the term `t`, its constants numbered from `n` up
  to `n'`. The rules accept what the function accepts (`ofExpr_eq_ok`), so that a fact about all
  accepted bodies is proved by induction on the rules, one case for each form.
-/
import WorkbookQuery.Proofs.Outcome
import WorkbookQuery.Selection.Predicate

namespace WorkbookQuery

namespace Term

/-- The conditions that come from comparing two terms. -/
inductive Compares : Comparison → Nat → Term → Term → Filter → Nat → Prop where
  | columns {op n a b} :
      Compares op n (.column a) (.column b) (.comparison a op (.column b)) n
  | literal {op n c l} : l.isNull = false →
      Compares op n (.column c) (.literal l) (.comparison c op (.literal (l.bind n))) (n + 1)
  | mirrored {op n c l} : l.isNull = false →
      Compares op n (.literal l) (.column c)
        (.comparison c op.mirrored (.literal (l.bind n))) (n + 1)
  | isNull {n c l} : l.isNull = true →
      Compares .eq n (.column c) (.literal l) (.isNull c) n
  | isNotNull {n c l} : l.isNull = true →
      Compares .ne n (.column c) (.literal l) (.isNotNull c) n
  | nullIs {n c l} : l.isNull = true →
      Compares .eq n (.literal l) (.column c) (.isNull c) n
  | nullIsNot {n c l} : l.isNull = true →
      Compares .ne n (.literal l) (.column c) (.isNotNull c) n

/-- The condition that a term is, or that a column alone makes. -/
inductive AsFilter : Term → Nat → Filter → Nat → Prop where
  | filter {f n} : AsFilter (.filter f) n f n
  | column {c n} :
      AsFilter (.column c) n
        (.comparison c .eq (.literal ((Literal.ofValue (.boolean true)).bind n))) (n + 1)

/-- A number and its opposite. -/
inductive Opposite : Literal → Literal → Prop where
  | integer {i : Int64} {type} : i ≠ Int64.minValue →
      Opposite ⟨.integer i, type⟩ ⟨.integer (-i), type⟩
  | float {x : Binary64} {type} : Opposite ⟨.float x, type⟩ ⟨.float x.negate, type⟩

inductive Reads (m : ColumnMap) (p : String) : Expr → Nat → Term → Nat → Prop where
  | member {name n} :
      Reads m p (.member (.parameter p) name) n (.column (m.resolve name)) n
  | index {key n} :
      Reads m p (.index (.parameter p) key) n (.column (m.resolve key)) n
  | constant {l n} : Reads m p (.constant l) n (.literal l) n
  | cast {target c n n'} : Reads m p target n (.column c) n' →
      Reads m p (.call target "cast" []) n (.column c) n'
  | textTest {target arg method test c l l' n n₁ n₂} :
      textTest? method = some test →
      Reads m p target n (.column c) n₁ → Reads m p arg n₁ (.literal l) n₂ →
      l.isNull = false → Literal.typed l.value .text = .ok l' →
      Reads m p (.call target method [arg]) n (.filter (test c (l'.bind n₂))) (n₂ + 1)
  | comparison {op c left right l r f n n₁ n₂ n₃} :
      comparison? op = some c →
      Reads m p left n l n₁ → Reads m p right n₁ r n₂ → Compares c n₂ l r f n₃ →
      Reads m p (.binary op left right) n (.filter f) n₃
  | connective {op connective left right l r f g n n₁ n₂ n₃ n₄} :
      connective? op = some connective →
      Reads m p left n l n₁ → AsFilter l n₁ f n₂ →
      Reads m p right n₂ r n₃ → AsFilter r n₃ g n₄ →
      Reads m p (.binary op left right) n (.filter (connective f g)) n₄
  | not {operand t f n n₁ n₂} : Reads m p operand n t n₁ → AsFilter t n₁ f n₂ →
      Reads m p (.unary .not operand) n (.filter (.not f)) n₂
  | negate {operand l l' n n'} : Reads m p operand n (.literal l) n' → Opposite l l' →
      Reads m p (.unary .negate operand) n (.literal l') n'
  | convertColumn {operand type c n n'} : Reads m p operand n (.column c) n' →
      Reads m p (.unary (.convert type) operand) n (.column c) n'
  | convertLiteral {operand type l l' n n'} : Reads m p operand n (.literal l) n' →
      Literal.typed l.value type = .ok l' →
      Reads m p (.unary (.convert type) operand) n (.literal l') n'

/-! ## The parts of a body -/

theorem eq_parameter_of_isOwn {p : String} {e : Expr} (h : isOwn p e = true) :
    e = .parameter p := by
  cases e <;> simp_all [isOwn]

theorem asColumn_eq_ok {node : Expr} {t : Term} {c : String} :
    t.asColumn node = .ok c ↔ t = .column c := by
  cases t <;> simp [asColumn, Expr.reject]

theorem asFilter_of_eq_ok {node : Expr} {t : Term} {f : Filter} {n n' : Nat}
    (h : t.asFilter node n = .ok (f, n')) : AsFilter t n f n' := by
  cases t with
  | filter g => cases h; exact .filter
  | column c => cases h; exact .column
  | literal l => cases h

theorem asFilter_eq_ok {node : Expr} {t : Term} {f : Filter} {n n' : Nat} :
    t.asFilter node n = .ok (f, n') ↔ AsFilter t n f n' := by
  constructor
  · exact asFilter_of_eq_ok
  · intro h
    cases h <;> rfl

theorem opposite_of_negate {node : Expr} {t t' : Term} (h : t.negate node = .ok t') :
    ∃ l l', t = .literal l ∧ t' = .literal l' ∧ Opposite l l' := by
  unfold negate at h
  split at h
  · split at h
    · cases h
    · next hi => cases h; exact ⟨_, _, rfl, rfl, .integer hi⟩
  · cases h; exact ⟨_, _, rfl, rfl, .float⟩
  · cases h

theorem typed_of_convert {node : Expr} {type : ScalarType} {t t' : Term}
    (h : t.convert node type = .ok t') :
    (∃ c, t = .column c ∧ t' = .column c) ∨
      ∃ l l', t = .literal l ∧ t' = .literal l' ∧ Literal.typed l.value type = .ok l' := by
  cases t with
  | column c => cases h; exact .inl ⟨c, rfl, rfl⟩
  | literal l =>
    simp only [convert] at h
    split at h
    · next l' hl => cases h; exact .inr ⟨l, l', rfl, rfl, hl⟩
    · cases h
  | filter f => cases h

/-- The tests of text and the methods that they go by. -/
theorem textTest?_cases {method : String} {test : String → BoundLiteral → Filter}
    (h : textTest? method = some test) :
    (method = "contains" ∧ test = .contains) ∨ (method = "starts_with" ∧ test = .startsWith) ∨
      (method = "ends_with" ∧ test = .endsWith) := by
  unfold textTest? at h
  split at h
  · next hm => cases h; exact .inl ⟨hm, rfl⟩
  · split at h
    · next hm => cases h; exact .inr (.inl ⟨hm, rfl⟩)
    · split at h
      · next hm => cases h; exact .inr (.inr ⟨hm, rfl⟩)
      · cases h

theorem testText_eq_ok {node : Expr} {test : String → BoundLiteral → Filter} {c : String}
    {n n' : Nat} {t t' : Term} (h : t.testText node test c n = .ok (t', n')) :
    ∃ l l', t = .literal l ∧ l.isNull = false ∧ Literal.typed l.value .text = .ok l' ∧
      t' = .filter (test c (l'.bind n)) ∧ n' = n + 1 := by
  cases t with
  | literal l =>
    simp only [testText] at h
    split at h
    · cases h
    · next hl =>
      obtain ⟨l', ht, h⟩ := bind_eq_ok.mp h
      cases h
      exact ⟨l, l', rfl, by simpa using hl, ht, rfl, rfl⟩
  | column c | filter f => cases h

theorem compares_of_compareColumn {node : Expr} {c : String} {op : Comparison} {n n' : Nat}
    {other t : Term} (h : compareColumn node c op n other = .ok (t, n')) :
    ∃ f, t = .filter f ∧ Compares op n (.column c) other f n' := by
  cases other with
  | column d => cases h; exact ⟨_, rfl, .columns⟩
  | literal l =>
    simp only [compareColumn] at h
    split at h
    · next hl =>
      cases op <;> cases h
      · exact ⟨_, rfl, .isNull hl⟩
      · exact ⟨_, rfl, .isNotNull hl⟩
    · next hl => cases h; exact ⟨_, rfl, .literal (by simpa using hl)⟩
  | filter f => cases h

/-- A constant on the left compares as on the right, with the mirrored comparison. -/
theorem Compares.swap {op : Comparison} {n n' : Nat} {c : String} {l : Literal} {f : Filter}
    (h : Compares op.mirrored n (.column c) (.literal l) f n') :
    Compares op n (.literal l) (.column c) f n' := by
  generalize hop : op.mirrored = op' at h
  cases h with
  | literal hl => subst hop; exact .mirrored hl
  | isNull hl => cases op <;> cases hop; exact .nullIs hl
  | isNotNull hl => cases op <;> cases hop; exact .nullIsNot hl

theorem Compares.swapped {op : Comparison} {n n' : Nat} {c : String} {l : Literal} {f : Filter}
    (h : Compares op n (.literal l) (.column c) f n') :
    Compares op.mirrored n (.column c) (.literal l) f n' := by
  cases h with
  | mirrored hl => exact .literal hl
  | nullIs hl => exact .isNull hl
  | nullIsNot hl => exact .isNotNull hl

theorem compares_of_compare {node : Expr} {op : Comparison} {n n' : Nat} {l r t : Term}
    (h : compare node op n l r = .ok (t, n')) :
    ∃ f, t = .filter f ∧ Compares op n l r f n' := by
  cases l with
  | column c => exact compares_of_compareColumn h
  | literal l =>
    cases r with
    | column c =>
      have h' : compareColumn node c op.mirrored n (.literal l) = .ok (t, n') := h
      obtain ⟨f, rfl, hf⟩ := compares_of_compareColumn h'
      exact ⟨f, rfl, hf.swap⟩
    | literal l' | filter f => cases h
  | filter f => cases h

theorem compareColumn_of_compares {node : Expr} {c : String} {op : Comparison} {n n' : Nat}
    {other : Term} {f : Filter} (h : Compares op n (.column c) other f n') :
    compareColumn node c op n other = .ok (.filter f, n') := by
  cases h with
  | columns => rfl
  | literal hl => simp [compareColumn, hl]
  | isNull hl | isNotNull hl => simp [compareColumn, hl]

theorem compare_of_compares {node : Expr} {op : Comparison} {n n' : Nat} {l r : Term}
    {f : Filter} (h : Compares op n l r f n') :
    compare node op n l r = .ok (.filter f, n') := by
  cases l with
  | column c => exact compareColumn_of_compares h
  | literal l =>
    cases r with
    | column c => exact compareColumn_of_compares h.swapped
    | literal l' | filter g => cases h
  | filter g => cases h

/-! ## Bodies -/

/-- Whatever is accepted is accepted by a rule. -/
theorem reads_of_ofExpr {m : ColumnMap} {p : String} {e : Expr} {n n' : Nat} {t : Term}
    (h : ofExpr m p e n = .ok (t, n')) : Reads m p e n t n' := by
  induction e, n using ofExpr.induct p generalizing t n' with
  | case1 target name n hp =>
    rw [ofExpr, if_pos hp] at h
    cases h
    rw [eq_parameter_of_isOwn hp]
    exact .member
  | case3 target key n hp =>
    rw [ofExpr, if_pos hp] at h
    cases h
    rw [eq_parameter_of_isOwn hp]
    exact .index
  | case2 target name n hp | case4 target name n hp =>
    rw [ofExpr, if_neg hp] at h
    cases h
  | case5 l n =>
    rw [ofExpr] at h
    cases h
    exact .constant
  | case6 target method args n hm ih =>
    obtain ⟨rfl, hargs⟩ := hm
    rw [List.isEmpty_iff] at hargs
    subst hargs
    rw [ofExpr, if_pos ⟨rfl, rfl⟩] at h
    simp only [bind_eq_ok, pure_eq_ok, Prod.mk.injEq, asColumn_eq_ok] at h
    obtain ⟨⟨t₁, n₁⟩, ht, c, rfl, rfl, rfl⟩ := h
    exact .cast (ih ht)
  | case7 target method args n hm test htest ih iharg =>
    rw [ofExpr, if_neg hm, htest] at h
    simp only [bind_eq_ok, asColumn_eq_ok] at h
    obtain ⟨⟨t₁, n₁⟩, ht, c, rfl, h⟩ := h
    match args, iharg, h with
    | [arg], iharg, h =>
      obtain ⟨⟨t₂, n₂⟩, harg, h⟩ := bind_eq_ok.mp h
      obtain ⟨l, l', rfl, hl, hl', rfl, rfl⟩ := testText_eq_ok h
      exact .textTest htest (ih ht) (iharg n₁ harg) hl hl'
  | case8 target method args n hm htest =>
    rw [ofExpr, if_neg hm, htest] at h
    cases h
  | case9 op left right n c hc ihl ihr =>
    rw [ofExpr, hc] at h
    simp only [bind_eq_ok] at h
    obtain ⟨⟨l, n₁⟩, hl, ⟨r, n₂⟩, hr, h⟩ := h
    obtain ⟨f, rfl, hf⟩ := compares_of_compare h
    exact .comparison hc (ihl hl) (ihr n₁ hr) hf
  | case10 op left right n connective hop hc ihl ihr =>
    rw [ofExpr, hc, hop] at h
    simp only [bind_eq_ok, pure_eq_ok, Prod.mk.injEq] at h
    obtain ⟨⟨l, n₁⟩, hl, ⟨f, n₂⟩, hf, ⟨r, n₃⟩, hr, ⟨g, n₄⟩, hg, rfl, rfl⟩ := h
    exact .connective hop (ihl hl) (asFilter_of_eq_ok hf) (ihr n₂ hr) (asFilter_of_eq_ok hg)
  | case11 op left right n hop hc =>
    rw [ofExpr, hc, hop] at h
    cases h
  | case12 operand n ih =>
    rw [ofExpr] at h
    obtain ⟨⟨t₁, n₁⟩, ht, h⟩ := bind_eq_ok.mp h
    cases t₁ with
    | literal l => cases h
    | column c => cases h; exact .not (ih ht) .column
    | filter f => cases h; exact .not (ih ht) .filter
  | case13 operand n ih =>
    rw [ofExpr] at h
    simp only [bind_eq_ok, pure_eq_ok, Prod.mk.injEq] at h
    obtain ⟨⟨t₁, n₁⟩, ht, t₂, hneg, rfl, rfl⟩ := h
    obtain ⟨l, l', rfl, rfl, hl⟩ := opposite_of_negate hneg
    exact .negate (ih ht) hl
  | case14 type operand n ih =>
    rw [ofExpr] at h
    simp only [bind_eq_ok, pure_eq_ok, Prod.mk.injEq] at h
    obtain ⟨⟨t₁, n₁⟩, ht, t₂, hconv, rfl, rfl⟩ := h
    obtain ⟨c, rfl, rfl⟩ | ⟨l, l', rfl, rfl, hl⟩ := typed_of_convert hconv
    · exact .convertColumn (ih ht)
    · exact .convertLiteral (ih ht) hl
  | case15 e n hmember hindex hconstant hcall hbinary hnot hnegate hconvert =>
    -- the forms with a rule are those above; the others are rejected at once
    cases e with
    | member target name => exact (hmember target name rfl).elim
    | index target key => exact (hindex target key rfl).elim
    | constant l => exact (hconstant l rfl).elim
    | call target method args => exact (hcall target method args rfl).elim
    | binary op left right => exact (hbinary op left right rfl).elim
    | unary op operand =>
      cases op with
      | not => exact (hnot operand rfl).elim
      | negate => exact (hnegate operand rfl).elim
      | convert type => exact (hconvert type operand rfl).elim
    | source element | freeCall method args | lambda p' body | parameter name | record fields =>
      cases h

/-- Whatever a rule accepts is accepted, by induction on the rules. -/
theorem ofExpr_of_reads {m : ColumnMap} {p : String} {e : Expr} {n n' : Nat} {t : Term}
    (h : Reads m p e n t n') : ofExpr m p e n = .ok (t, n') := by
  induction h with
  | member | index => simp [ofExpr, isOwn]
  | constant => rw [ofExpr]
  | cast _ ih =>
    simp only [ofExpr, ih, ok_bind]
    rfl
  | @textTest target arg method test c l l' n n₁ n₂ htest _ _ hl hl' ihtarget iharg =>
    have hcast : ¬ (method = "cast" ∧ [arg].isEmpty = true) := by simp
    rw [ofExpr, if_neg hcast, htest]
    simp only [ihtarget, iharg, ok_bind, asColumn, testText, hl, hl']
    rfl
  | comparison hop _ _ hf ihl ihr =>
    rw [ofExpr, hop]
    simp only [ihl, ihr, ok_bind]
    exact compare_of_compares hf
  | @connective op _ _ _ _ _ _ _ _ _ _ _ _ hop _ hf _ hg ihl ihr =>
    have hc : comparison? op = none := by cases op <;> cases hop <;> rfl
    rw [ofExpr, hc, hop]
    simp only [ihl, ihr, ok_bind, asFilter_eq_ok.mpr hf, asFilter_eq_ok.mpr hg]
    rfl
  | not _ hf ih =>
    rw [ofExpr, ih, ok_bind]
    cases hf <;> rfl
  | negate _ hl ih =>
    rw [ofExpr, ih, ok_bind]
    cases hl with
    | integer hi => simp only [negate, if_neg hi]; rfl
    | float => rfl
  | convertColumn _ ih =>
    rw [ofExpr, ih, ok_bind]
    rfl
  | convertLiteral _ hl ih =>
    rw [ofExpr, ih, ok_bind]
    simp only [convert, hl]
    rfl

theorem ofExpr_eq_ok {m : ColumnMap} {p : String} {e : Expr} {n n' : Nat} {t : Term} :
    ofExpr m p e n = .ok (t, n') ↔ Reads m p e n t n' :=
  ⟨reads_of_ofExpr, ofExpr_of_reads⟩

/-- A condition that is accepted comes from a term by the rules. -/
theorem reads_of_filterOfExpr {m : ColumnMap} {p : String} {e : Expr} {n n' : Nat}
    {f : Filter} (h : filterOfExpr m p e n = .ok (f, n')) :
    ∃ t n₁, Reads m p e n t n₁ ∧ AsFilter t n₁ f n' := by
  obtain ⟨⟨t, n₁⟩, ht, h⟩ := bind_eq_ok.mp h
  exact ⟨t, n₁, reads_of_ofExpr ht, asFilter_of_eq_ok h⟩

end Term

end WorkbookQuery
