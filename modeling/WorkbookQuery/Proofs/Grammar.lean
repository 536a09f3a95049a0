/-
  The language of the bodies of lambdas, as a grammar. Over a parameter `p`, with `op` one of the
  six comparisons:

    Column    ::= p.name | p[key] | Column.cast() | (Column as T)
    Literal   ::= constant | -Literal | (Literal as T)
    Predicate ::= Column op Column | Column op Literal | Literal op Column
                | Condition && Condition | Condition || Condition | !Condition
                | Column.contains(Literal) | Column.starts_with(Literal)
                | Column.ends_with(Literal)
    Condition ::= Predicate | Column

  Minus needs a number that has an opposite, a conversion a value that has a counterpart, null
  compares by `==` and `!=` alone, and no text test looks for null. `ofExpr_grammar`: a body
  stands for a column, a constant or a condition exactly when the grammar derives it as that,
  whatever number comes next, and is rejected exactly when it derives it as nothing.
-/
import WorkbookQuery.Proofs.Body

namespace WorkbookQuery

/-- What the grammar derives. Columns come with the property that they read, constants with
what they come to. -/
inductive Phrase where
  | column (property : String)
  | literal (l : Literal)
  | predicate
  | condition

def BinaryOp.comparisons : List BinaryOp := [.eq, .ne, .lt, .le, .gt, .ge]

/-- The methods that look for a text in a column. -/
def Expr.textTests : List String := ["contains", "starts_with", "ends_with"]

inductive Derives (p : String) : Phrase → Expr → Prop where
  | member {name} : Derives p (.column name) (.member (.parameter p) name)
  | index {key} : Derives p (.column key) (.index (.parameter p) key)
  | cast {name e} : Derives p (.column name) e → Derives p (.column name) (.call e "cast" [])
  | convertColumn {name type e} : Derives p (.column name) e →
      Derives p (.column name) (.unary (.convert type) e)
  | constant {l} : Derives p (.literal l) (.constant l)
  | negateInteger {i : Int64} {type e} : Derives p (.literal ⟨.integer i, type⟩) e →
      i ≠ Int64.minValue → Derives p (.literal ⟨.integer (-i), type⟩) (.unary .negate e)
  | negateFloat {x : Binary64} {type e} : Derives p (.literal ⟨.float x, type⟩) e →
      Derives p (.literal ⟨.float x.negate, type⟩) (.unary .negate e)
  | convertLiteral {l v type e} : Derives p (.literal l) e → l.value.coerce type = .ok v →
      Derives p (.literal ⟨v, type⟩) (.unary (.convert type) e)
  | columns {op a b left right} : op ∈ BinaryOp.comparisons → Derives p (.column a) left →
      Derives p (.column b) right → Derives p .predicate (.binary op left right)
  | columnLiteral {op a l left right} : op ∈ BinaryOp.comparisons →
      Derives p (.column a) left → Derives p (.literal l) right →
      (l.isNull = true → op = .eq ∨ op = .ne) → Derives p .predicate (.binary op left right)
  | literalColumn {op a l left right} : op ∈ BinaryOp.comparisons →
      Derives p (.literal l) left → Derives p (.column a) right →
      (l.isNull = true → op = .eq ∨ op = .ne) → Derives p .predicate (.binary op left right)
  | and {left right} : Derives p .condition left → Derives p .condition right →
      Derives p .predicate (.binary .and left right)
  | or {left right} : Derives p .condition left → Derives p .condition right →
      Derives p .predicate (.binary .or left right)
  | not {e} : Derives p .condition e → Derives p .predicate (.unary .not e)
  | textTest {method a l target arg} : method ∈ Expr.textTests →
      Derives p (.column a) target → Derives p (.literal l) arg → l.isNull = false →
      Derives p .predicate (.call target method [arg])
  | ofPredicate {e} : Derives p .predicate e → Derives p .condition e
  | ofColumn {a e} : Derives p (.column a) e → Derives p .condition e

namespace Term

variable {m : ColumnMap} {p : String} {e : Expr} {t l r : Term} {f : Filter} {n n' : Nat}

/-! ## Names of operators and tests -/

theorem comparison?_isSome {op : BinaryOp} :
    (∃ c, comparison? op = some c) ↔ op ∈ BinaryOp.comparisons := by
  cases op <;> simp [comparison?, BinaryOp.comparisons]

theorem textTest?_isSome {method : String} :
    (∃ test, textTest? method = some test) ↔ method ∈ Expr.textTests := by
  constructor
  · rintro ⟨test, h⟩
    rcases textTest?_cases h with ⟨rfl, -⟩ | ⟨rfl, -⟩ | ⟨rfl, -⟩ <;> simp [Expr.textTests]
  · intro h
    simp only [Expr.textTests, List.mem_cons, List.not_mem_nil, or_false] at h
    rcases h with rfl | rfl | rfl
    · exact ⟨.contains, by simp [textTest?]⟩
    · exact ⟨.startsWith, by simp [textTest?]⟩
    · exact ⟨.endsWith, by simp [textTest?]⟩

theorem connective?_cases {op : BinaryOp} {connective : Filter → Filter → Filter}
    (h : connective? op = some connective) : op = .and ∨ op = .or := by
  cases op <;> cases h
  · exact .inl rfl
  · exact .inr rfl

/-- Every constant but null has a counterpart as text. -/
theorem typed_text_of_isNull {l : Literal} (h : l.isNull = false) :
    ∃ l', Literal.typed l.value .text = .ok l' := by
  have hv : l.value.isNull = false := h
  simp only [Literal.typed, Value.coerce, hv, Value.convert?]
  exact ⟨_, rfl⟩

/-! ## What is accepted is derived -/

/-- The grammar derives the expression as what it stands for. -/
def Derived (m : ColumnMap) (p : String) (e : Expr) : Term → Prop
  | .column c => ∃ name, Derives p (.column name) e ∧ m.resolve name = c
  | .literal l => Derives p (.literal l) e
  | .filter _ => Derives p .predicate e

theorem derives_of_asFilter (ht : t.Derived m p e) (h : AsFilter t n f n') :
    Derives p .condition e := by
  cases h with
  | filter => exact .ofPredicate ht
  | column =>
    obtain ⟨name, hname, -⟩ := ht
    exact .ofColumn hname

/-- Null is compared by equality alone. -/
theorem eq_or_ne_of_compares {op : BinaryOp} {c : Comparison} (hop : comparison? op = some c)
    {a : Literal} (ha : l = .literal a ∨ r = .literal a) (h : Compares c n l r f n') :
    a.isNull = true → op = .eq ∨ op = .ne := by
  intro hnull
  cases h with
  | columns => simp at ha
  | literal hl | mirrored hl =>
    simp only [reduceCtorEq, or_false, false_or, literal.injEq] at ha
    rw [ha, hnull] at hl
    cases hl
  | isNull | nullIs => cases op <;> cases hop; exact .inl rfl
  | isNotNull | nullIsNot => cases op <;> cases hop; exact .inr rfl

theorem derives_of_compares {op : BinaryOp} {c : Comparison} {left right : Expr}
    (hop : comparison? op = some c) (hl : l.Derived m p left) (hr : r.Derived m p right)
    (h : Compares c n l r f n') : Derives p .predicate (.binary op left right) := by
  have hmem : op ∈ BinaryOp.comparisons := comparison?_isSome.mp ⟨c, hop⟩
  have hnull := fun a ha => eq_or_ne_of_compares hop (a := a) ha h
  cases l with
  | column a =>
    obtain ⟨_, hleft, -⟩ := hl
    cases r with
    | column b =>
      obtain ⟨_, hright, -⟩ := hr
      exact .columns hmem hleft hright
    | literal b => exact .columnLiteral hmem hleft hr (hnull b (.inr rfl))
    | filter g => cases h
  | literal a =>
    cases r with
    | column b =>
      obtain ⟨_, hright, -⟩ := hr
      exact .literalColumn hmem hl hright (hnull a (.inl rfl))
    | literal b | filter g => cases h
  | filter g => cases h

/-- By induction on the rules: each rule is one of the grammar's. -/
theorem derived_of_reads (h : Reads m p e n t n') : t.Derived m p e := by
  induction h with
  | member => exact ⟨_, .member, rfl⟩
  | index => exact ⟨_, .index, rfl⟩
  | constant => exact .constant
  | cast _ ih =>
    obtain ⟨name, hname, hc⟩ := ih
    exact ⟨name, .cast hname, hc⟩
  | convertColumn _ ih =>
    obtain ⟨name, hname, hc⟩ := ih
    exact ⟨name, .convertColumn hname, hc⟩
  | textTest htest _ _ hl _ ihtarget iharg =>
    obtain ⟨_, htarget, -⟩ := ihtarget
    exact .textTest (textTest?_isSome.mp ⟨_, htest⟩) htarget iharg hl
  | comparison hop _ _ hf ihl ihr => exact derives_of_compares hop ihl ihr hf
  | connective hop _ hf _ hg ihl ihr =>
    rcases connective?_cases hop with rfl | rfl
    · exact .and (derives_of_asFilter ihl hf) (derives_of_asFilter ihr hg)
    · exact .or (derives_of_asFilter ihl hf) (derives_of_asFilter ihr hg)
  | not _ hf ih => exact .not (derives_of_asFilter ih hf)
  | negate _ hl ih =>
    cases hl with
    | integer hi => exact .negateInteger ih hi
    | float => exact .negateFloat ih
  | convertLiteral _ hl ih =>
    obtain ⟨v, hv, hl⟩ := bind_eq_ok.mp hl
    cases hl
    exact .convertLiteral ih hv

/-- What is accepted as anything is derived as something. -/
theorem derives_of_accepted {result : Term × Nat} (h : ofExpr m p e n = .ok result) :
    ∃ phrase, Derives p phrase e := by
  have hderived : result.1.Derived m p e := derived_of_reads (reads_of_ofExpr h)
  cases ht : result.1 with
  | column c =>
    rw [ht] at hderived
    obtain ⟨name, hname, -⟩ := hderived
    exact ⟨_, hname⟩
  | literal l =>
    rw [ht] at hderived
    exact ⟨_, hderived⟩
  | filter f =>
    rw [ht] at hderived
    exact ⟨_, hderived⟩

/-! ## What is derived is accepted -/

/-- The expression stands for what the phrase says, whatever number comes next. Columns and
constants take no numbers. -/
def Stands (m : ColumnMap) (p : String) (e : Expr) : Phrase → Prop
  | .column name => ∀ n, Reads m p e n (.column (m.resolve name)) n
  | .literal l => ∀ n, Reads m p e n (.literal l) n
  | .predicate => ∀ n, ∃ f n', Reads m p e n (.filter f) n'
  | .condition => ∀ n, ∃ t n₁ f n', Reads m p e n t n₁ ∧ AsFilter t n₁ f n'

theorem compares_literal {op : BinaryOp} {c : Comparison} (hop : comparison? op = some c)
    {a : Literal} (hnull : a.isNull = true → op = .eq ∨ op = .ne) (column : String) (n : Nat) :
    ∃ f n', Compares c n (.column column) (.literal a) f n' := by
  cases ha : a.isNull with
  | false => exact ⟨_, _, .literal ha⟩
  | true =>
    rcases hnull ha with rfl | rfl
    · cases hop
      exact ⟨_, _, .isNull ha⟩
    · cases hop
      exact ⟨_, _, .isNotNull ha⟩

theorem literal_compares {op : BinaryOp} {c : Comparison} (hop : comparison? op = some c)
    {a : Literal} (hnull : a.isNull = true → op = .eq ∨ op = .ne) (column : String) (n : Nat) :
    ∃ f n', Compares c n (.literal a) (.column column) f n' := by
  cases ha : a.isNull with
  | false => exact ⟨_, _, .mirrored ha⟩
  | true =>
    rcases hnull ha with rfl | rfl
    · cases hop
      exact ⟨_, _, .nullIs ha⟩
    · cases hop
      exact ⟨_, _, .nullIsNot ha⟩

/-- By induction on the derivation. The parts of a phrase are read one after the other, each
from the number where the one before it stopped. -/
theorem stands_of_derives (m : ColumnMap) {phrase : Phrase} (h : Derives p phrase e) :
    Stands m p e phrase := by
  induction h with
  | member => exact fun _ => .member
  | index => exact fun _ => .index
  | cast _ ih => exact fun n => .cast (ih n)
  | convertColumn _ ih => exact fun n => .convertColumn (ih n)
  | constant => exact fun _ => .constant
  | negateInteger _ hi ih => exact fun n => .negate (ih n) (.integer hi)
  | negateFloat _ ih => exact fun n => .negate (ih n) .float
  | convertLiteral _ hv ih =>
    intro n
    exact .convertLiteral (ih n) (bind_eq_ok.mpr ⟨_, hv, rfl⟩)
  | columns hop _ _ ihl ihr =>
    intro n
    obtain ⟨c, hc⟩ := comparison?_isSome.mpr hop
    exact ⟨_, _, .comparison hc (ihl n) (ihr n) .columns⟩
  | columnLiteral hop _ _ hnull ihl ihr =>
    intro n
    obtain ⟨c, hc⟩ := comparison?_isSome.mpr hop
    obtain ⟨f, n', hf⟩ := compares_literal hc hnull (m.resolve _) n
    exact ⟨f, n', .comparison hc (ihl n) (ihr n) hf⟩
  | literalColumn hop _ _ hnull ihl ihr =>
    intro n
    obtain ⟨c, hc⟩ := comparison?_isSome.mpr hop
    obtain ⟨f, n', hf⟩ := literal_compares hc hnull (m.resolve _) n
    exact ⟨f, n', .comparison hc (ihl n) (ihr n) hf⟩
  | and _ _ ihl ihr | or _ _ ihl ihr =>
    intro n
    obtain ⟨l, n₁, f, n₂, hl, hf⟩ := ihl n
    obtain ⟨r, n₃, g, n₄, hr, hg⟩ := ihr n₂
    exact ⟨_, n₄, .connective rfl hl hf hr hg⟩
  | not _ ih =>
    intro n
    obtain ⟨t, n₁, f, n₂, ht, hf⟩ := ih n
    exact ⟨_, n₂, .not ht hf⟩
  | textTest hmethod _ _ hl ihtarget iharg =>
    intro n
    obtain ⟨test, htest⟩ := textTest?_isSome.mpr hmethod
    obtain ⟨l', hl'⟩ := typed_text_of_isNull hl
    exact ⟨_, _, .textTest htest (ihtarget n) (iharg n) hl hl'⟩
  | ofPredicate _ ih =>
    intro n
    obtain ⟨f, n', hf⟩ := ih n
    exact ⟨_, n', f, n', hf, .filter⟩
  | ofColumn _ ih => exact fun n => ⟨_, n, _, _, ih n, .column⟩

/-- What is derived as anything is accepted as something. -/
theorem accepted_of_derives (m : ColumnMap) {phrase : Phrase} (h : Derives p phrase e) (n : Nat) :
    ∃ t n', ofExpr m p e n = .ok (t, n') := by
  have hstands := stands_of_derives m h
  cases phrase with
  | column name | literal l => exact ⟨_, n, ofExpr_of_reads (hstands n)⟩
  | predicate =>
    obtain ⟨f, n', hf⟩ := hstands n
    exact ⟨_, n', ofExpr_of_reads hf⟩
  | condition =>
    obtain ⟨t, n', -, -, ht, -⟩ := hstands n
    exact ⟨t, n', ofExpr_of_reads ht⟩

/-! ## The language -/

/-- Bodies are read by the grammar, whatever number comes next: as a column that the grammar
derives, under the name that the mapping gives to the property it reads; as a constant, with
what the grammar says it comes to; as a condition when it is a predicate. What is derived as
nothing, and only that, is rejected. Columns and constants leave the next number as it is. -/
theorem ofExpr_grammar (m : ColumnMap) (p : String) (e : Expr) (n : Nat) :
    (∀ c n', ofExpr m p e n = .ok (.column c, n') ↔
      (∃ name, Derives p (.column name) e ∧ m.resolve name = c) ∧ n = n') ∧
    (∀ l n', ofExpr m p e n = .ok (.literal l, n') ↔ Derives p (.literal l) e ∧ n = n') ∧
    ((∃ f n', ofExpr m p e n = .ok (.filter f, n')) ↔ Derives p .predicate e) ∧
    ((∃ fault, ofExpr m p e n = .error fault) ↔ ∀ phrase, ¬ Derives p phrase e) := by
  refine ⟨?_, ?_, ?_, ?_⟩
  · intro c n'
    constructor
    · intro h
      obtain ⟨name, hname, rfl⟩ := derived_of_reads (reads_of_ofExpr h)
      -- columns take no numbers, so the derivation says where the function stops
      have hcolumn := ofExpr_of_reads (stands_of_derives m hname n)
      rw [h] at hcolumn
      cases hcolumn
      exact ⟨⟨name, hname, rfl⟩, rfl⟩
    · rintro ⟨⟨name, hname, rfl⟩, rfl⟩
      exact ofExpr_of_reads (stands_of_derives m hname n)
  · intro l n'
    constructor
    · intro h
      have hderives : Derives p (.literal l) e := derived_of_reads (reads_of_ofExpr h)
      have hliteral := ofExpr_of_reads (stands_of_derives m hderives n)
      rw [h] at hliteral
      cases hliteral
      exact ⟨hderives, rfl⟩
    · rintro ⟨hderives, rfl⟩
      exact ofExpr_of_reads (stands_of_derives m hderives n)
  · constructor
    · rintro ⟨f, n', h⟩
      exact derived_of_reads (reads_of_ofExpr h)
    · intro h
      obtain ⟨f, n', hf⟩ := stands_of_derives m h n
      exact ⟨f, n', ofExpr_of_reads hf⟩
  · constructor
    · rintro ⟨fault, h⟩ phrase hderives
      obtain ⟨t, n', ht⟩ := accepted_of_derives m hderives n
      rw [h] at ht
      cases ht
    · intro h
      cases hresult : ofExpr m p e n with
      | error fault => exact ⟨fault, rfl⟩
      | ok result =>
        obtain ⟨phrase, hderives⟩ := derives_of_accepted hresult
        exact absurd hderives (h phrase)

end Term

end WorkbookQuery
