/-
  The meaning of conditions on one row. An interpretation says what the columns of the row
  hold and how its values compare; under it both a lambda's body and the condition read from
  it are true or false. `filter_meaning`: they are true on the same rows.
-/
import WorkbookQuery.Proofs.Body

namespace WorkbookQuery

/-- One row, seen through values of any kind `α`: what its columns hold, the value that a
constant stands for, and the tests between values. Operands may swap sides when the
comparison is mirrored. -/
structure Interpretation (α : Type) where
  column : String → α
  constant : Literal → α
  compare : Comparison → α → α → Bool
  compare_mirrored : ∀ op a b, compare op a b = compare op.mirrored b a
  isNull : α → Bool
  contains : α → α → Bool
  startsWith : α → α → Bool
  endsWith : α → α → Bool

/-- What a part of a body comes to on a row. -/
inductive Meaning (α : Type) where
  /-- The value of a column. -/
  | cell (a : α)
  | constant (l : Literal)
  | truth (b : Bool)

namespace Interpretation

variable {α : Type} (i : Interpretation α)

/-! ## Bodies -/

/-- A cell alone is a condition too: it has to be true. -/
def truth? : Meaning α → Option Bool
  | .cell a => some (i.compare .eq a (i.constant (.ofValue (.boolean true))))
  | .constant _ => none
  | .truth b => some b

/-- A cell against null. -/
def nullTest? (a : α) : Comparison → Option Bool
  | .eq => some (i.isNull a)
  | .ne => some (!i.isNull a)
  | _ => none

/-- A cell and a constant, in the order in which they stand. -/
def compare? (op : Comparison) : Meaning α → Meaning α → Option Bool
  | .cell a, .cell b => some (i.compare op a b)
  | .cell a, .constant l =>
    if l.isNull then i.nullTest? a op else some (i.compare op a (i.constant l))
  | .constant l, .cell b =>
    if l.isNull then i.nullTest? b op else some (i.compare op (i.constant l) b)
  | _, _ => none

/-- The tests of text by the names of their methods. -/
def textTest? : String → Option (α → α → Bool)
  | "contains" => some i.contains
  | "starts_with" => some i.startsWith
  | "ends_with" => some i.endsWith
  | _ => none

/-- A test of a cell's text; the constant is taken as text. -/
def applyTest? (test : α → α → Bool) : Meaning α → Meaning α → Option Bool
  | .cell a, .constant l =>
    match Literal.typed l.value .text with
    | .ok l => some (test a (i.constant l))
    | .error _ => none
  | _, _ => none

/-- The value of a column and nothing else. -/
def cell? : Meaning α → Option (Meaning α)
  | .cell a => some (.cell a)
  | _ => none

/-- Minus a number. -/
def negate? : Meaning α → Option (Meaning α)
  | .constant ⟨.integer n, type⟩ =>
    if n = Int64.minValue then none else some (.constant ⟨.integer (-n), type⟩)
  | .constant ⟨.float x, type⟩ => some (.constant ⟨.float x.negate, type⟩)
  | _ => none

/-- A conversion does nothing to a cell and gives a constant another type. -/
def convert? (type : ScalarType) : Meaning α → Option (Meaning α)
  | .cell a => some (.cell a)
  | .constant l =>
    match Literal.typed l.value type with
    | .ok l => some (.constant l)
    | .error _ => none
  | .truth _ => none

/-- Two parts joined by an operator. -/
def operate? : BinaryOp → Meaning α → Meaning α → Option Bool
  | .eq, a, b => i.compare? .eq a b
  | .ne, a, b => i.compare? .ne a b
  | .lt, a, b => i.compare? .lt a b
  | .le, a, b => i.compare? .le a b
  | .gt, a, b => i.compare? .gt a b
  | .ge, a, b => i.compare? .ge a b
  | .and, a, b => do
    let a ← i.truth? a
    let b ← i.truth? b
    return a && b
  | .or, a, b => do
    let a ← i.truth? a
    let b ← i.truth? b
    return a || b
  | _, _, _ => none

/-- What an expression over the parameter `p` comes to, without any condition in between. -/
def eval (m : ColumnMap) (p : String) : Expr → Option (Meaning α)
  | .member (.parameter name) property =>
    if name = p then some (.cell (i.column (m.resolve property))) else none
  | .index (.parameter name) key =>
    if name = p then some (.cell (i.column (m.resolve key))) else none
  | .constant l => some (.constant l)
  | .call target "cast" [] => do
    cell? (← eval m p target)
  | .call target method [arg] => do
    let test ← i.textTest? method
    return .truth (← i.applyTest? test (← eval m p target) (← eval m p arg))
  | .binary op left right => do
    return .truth (← i.operate? op (← eval m p left) (← eval m p right))
  | .unary .not operand => do
    let b ← i.truth? (← eval m p operand)
    return .truth (!b)
  | .unary .negate operand => do
    negate? (← eval m p operand)
  | .unary (.convert type) operand => do
    convert? type (← eval m p operand)
  | _ => none

/-- The truth of a body as a condition. -/
def bodyTruth (m : ColumnMap) (p : String) (body : Expr) : Option Bool := do
  i.truth? (← i.eval m p body)

/-! ## Conditions -/

/-- The value of a constant of a condition; its number has no part in it. -/
def bound (l : BoundLiteral) : α := i.constant ⟨l.value, l.type⟩

def filterTruth : Filter → Bool
  | .comparison c op (.literal l) => i.compare op (i.column c) (i.bound l)
  | .comparison c op (.column other) => i.compare op (i.column c) (i.column other)
  | .and left right => filterTruth left && filterTruth right
  | .or left right => filterTruth left || filterTruth right
  | .not inner => !filterTruth inner
  | .contains c l => i.contains (i.column c) (i.bound l)
  | .startsWith c l => i.startsWith (i.column c) (i.bound l)
  | .endsWith c l => i.endsWith (i.column c) (i.bound l)
  | .isNull c => i.isNull (i.column c)
  | .isNotNull c => !i.isNull (i.column c)

/-- The meaning of a term: of a condition, its truth. -/
def meaning : Term → Meaning α
  | .column c => .cell (i.column c)
  | .literal l => .constant l
  | .filter f => .truth (i.filterTruth f)

@[simp] theorem meaning_column (c : String) : i.meaning (.column c) = .cell (i.column c) := rfl

@[simp] theorem meaning_literal (l : Literal) : i.meaning (.literal l) = .constant l := rfl

@[simp] theorem meaning_filter (f : Filter) :
    i.meaning (.filter f) = .truth (i.filterTruth f) := rfl

/-! ## Rows of values -/

/-- The comparison of two things that are ordered in this way. -/
def admits : Comparison → Ordering → Bool
  | .eq, o => o == .eq
  | .ne, o => o != .eq
  | .lt, o => o == .lt
  | .le, o => o != .gt
  | .gt, o => o == .gt
  | .ge, o => o != .lt

theorem admits_mirrored (op : Comparison) (o : Ordering) :
    admits op.mirrored o.swap = admits op o := by
  cases op <;> cases o <;> rfl

/-- Whole numbers and truth values by size. -/
def rank : Value → Int
  | .integer n => n.toInt
  | .boolean b => if b then 1 else 0
  | _ => 0

/-- The plain reading of a row: values as they are, compared by rank, texts by their
characters. -/
def ofRow (row : String → Value) : Interpretation Value where
  column := row
  constant l := l.value
  compare op a b := admits op (Ord.compare (rank a) (rank b))
  compare_mirrored op a b := by
    rw [← admits_mirrored, ← Std.OrientedCmp.eq_swap]
  isNull v := v.isNull
  contains a b := a.render.contains b.render
  startsWith a b := a.render.startsWith b.render
  endsWith a b := a.render.endsWith b.render

/-! ## Both agree -/

theorem truth?_of_asFilter {t : Term} {n n' : Nat} {f : Filter}
    (h : Term.AsFilter t n f n') : i.truth? (i.meaning t) = some (i.filterTruth f) := by
  cases h <;> rfl

/-- Whichever side the constant stands on, and with null on either side. -/
theorem compare?_of_compares {op : Comparison} {n n' : Nat} {l r : Term} {f : Filter}
    (h : Term.Compares op n l r f n') :
    i.compare? op (i.meaning l) (i.meaning r) = some (i.filterTruth f) := by
  cases h with
  | columns => rfl
  | literal hl => simp [compare?, hl, filterTruth, bound, Literal.bind]
  | @mirrored _ _ c l hl =>
    simp only [meaning_literal, meaning_column, compare?, hl, filterTruth]
    rw [i.compare_mirrored op]
    rfl
  | isNull hl | isNotNull hl | nullIs hl | nullIsNot hl =>
    simp [compare?, hl, nullTest?, filterTruth]

theorem textTest?_of_textTest? {method : String} {test : String → BoundLiteral → Filter}
    (h : Term.textTest? method = some test) :
    ∃ holds, i.textTest? method = some holds ∧
      ∀ c l, i.filterTruth (test c l) = holds (i.column c) (i.bound l) := by
  unfold Term.textTest? at h
  split at h
  · next hm => cases h; subst hm; exact ⟨i.contains, rfl, fun _ _ => rfl⟩
  · split at h
    · next hm => cases h; subst hm; exact ⟨i.startsWith, rfl, fun _ _ => rfl⟩
    · split at h
      · next hm => cases h; subst hm; exact ⟨i.endsWith, rfl, fun _ _ => rfl⟩
      · cases h

theorem negate?_of_opposite {l l' : Literal} (h : Term.Opposite l l') :
    negate? (.constant l : Meaning α) = some (.constant l') := by
  cases h with
  | integer hi => simp [negate?, hi]
  | float => rfl

theorem operate?_comparison {op : BinaryOp} {c : Comparison} (h : Term.comparison? op = some c)
    (a b : Meaning α) : i.operate? op a b = i.compare? c a b := by
  cases op <;> cases h <;> rfl

theorem operate?_connective {op : BinaryOp} {connective : Filter → Filter → Filter}
    {a b : Meaning α} {f g : Filter} (h : Term.connective? op = some connective)
    (ha : i.truth? a = some (i.filterTruth f)) (hb : i.truth? b = some (i.filterTruth g)) :
    i.operate? op a b = some (i.filterTruth (connective f g)) := by
  cases op <;> cases h <;> simp [operate?, ha, hb, filterTruth]

/-- A body comes to what the term read from it means, by induction on the rules. -/
theorem eval_of_reads {m : ColumnMap} {p : String} {e : Expr} {n n' : Nat} {t : Term}
    (h : Term.Reads m p e n t n') : i.eval m p e = some (i.meaning t) := by
  induction h with
  | member | index => simp [eval]
  | constant => rfl
  | cast _ ih => simp [eval, ih, cell?]
  | textTest htest _ _ _ hl' ihtarget iharg =>
    obtain ⟨holds, hholds, hf⟩ := i.textTest?_of_textTest? htest
    simp [eval, hholds, ihtarget, iharg, applyTest?, hl', hf, bound, Literal.bind]
  | comparison hc _ _ hcmp ihl ihr =>
    have h := i.compare?_of_compares hcmp
    rw [← i.operate?_comparison hc] at h
    simp [eval, ihl, ihr, h]
  | connective hop _ hf _ hg ihl ihr =>
    have h := i.operate?_connective hop (i.truth?_of_asFilter hf) (i.truth?_of_asFilter hg)
    simp [eval, ihl, ihr, h]
  | not _ hf ih =>
    have h := i.truth?_of_asFilter hf
    simp [eval, ih, h, filterTruth]
  | negate _ hl ih => simp [eval, ih, negate?_of_opposite hl]
  | convertColumn _ ih => simp [eval, ih, convert?]
  | convertLiteral _ hl ih => simp [eval, ih, convert?, hl]

/-- Under every interpretation, and from whatever number its constants are counted, a body
that is read as a condition is true on exactly the rows on which the condition is. -/
theorem filter_meaning {m : ColumnMap} {p : String} {body : Expr} {n n' : Nat} {f : Filter}
    (h : Term.filterOfExpr m p body n = .ok (f, n')) :
    i.bodyTruth m p body = some (i.filterTruth f) := by
  obtain ⟨t, n₁, ht, hf⟩ := Term.reads_of_filterOfExpr h
  rw [bodyTruth, i.eval_of_reads ht]
  exact i.truth?_of_asFilter hf

/-- `((-5 <= x.age) && (null != x["email"])) || !x.active`, where `age` is read from `Age`:
a constant on the left, a folded one, null on the left and a column alone. -/
theorem filter_meaning_mixed :
    let m := ColumnMap.empty.add "age" "Age"
    let x := Expr.parameter "x"
    let body := Expr.binary .or
      (.binary .and
        (.binary .le (.unary .negate (.ofValue (.integer 5))) (.member x "age"))
        (.binary .ne .null (.index x "email")))
      (.unary .not (.member x "active"))
    let f := Filter.or
      (.and (.comparison "Age" .ge (.literal ⟨.integer (-5), .integer, 3⟩))
        (.isNotNull "email"))
      (.not (.comparison "active" .eq (.literal ⟨.boolean true, .boolean, 4⟩)))
    let i := ofRow fun c => if c = "Age" then .integer 36 else .boolean true
    Term.filterOfExpr m "x" body 3 = .ok (f, 5) ∧
      i.bodyTruth m "x" body = some (i.filterTruth f) ∧ i.filterTruth f = true :=
  ⟨rfl, filter_meaning _ rfl, rfl⟩

end Interpretation

end WorkbookQuery
