/-
  The parameters of statements. No parameter is null: a comparison with null asks whether the
  column is null and binds nothing, a text test does not take null, and no conversion makes null
  of anything else. And parameters are of the types that they are bound with, when the constants
  of the expression are of theirs (`parameters_typed`).

  Whatever property of constants conversions yield and negation keeps is handed on from the
  constants of an expression to those of its condition (`binds_of_reads`, `Drafts.binds`); both
  statements are cases of this one.
-/
import WorkbookQuery.Proofs.Numbering

namespace WorkbookQuery

/-! ## The constants of an expression -/

namespace Expr

mutual

def constants : Expr → List Literal
  | .constant l => [l]
  | .source _ | .parameter _ => []
  | .call target _ args => target.constants ++ constantsOfAll args
  | .freeCall _ args => constantsOfAll args
  | .lambda _ body => body.constants
  | .member target _ | .index target _ => target.constants
  | .binary _ left right => left.constants ++ right.constants
  | .unary _ operand => operand.constants
  | .record fields => constantsOfFields fields

def constantsOfAll : List Expr → List Literal
  | [] => []
  | e :: es => e.constants ++ constantsOfAll es

def constantsOfFields : List (String × Expr) → List Literal
  | [] => []
  | (_, e) :: rest => e.constants ++ constantsOfFields rest

end

end Expr

namespace Literal

/-- Null, or a value of the type that the constant was declared with. -/
def WellTyped (l : Literal) : Prop := l.value = .null ∨ l.value.type? = some l.type

instance {l : Literal} : Decidable l.WellTyped := inferInstanceAs (Decidable (_ ∨ _))

/-- What every conversion yields, and a number hands on to its opposite. -/
structure Stable (P : Literal → Prop) : Prop where
  typed {v : Value} {type : ScalarType} {l : Literal} : Literal.typed v type = .ok l → P l
  opposite {l l' : Literal} : Term.Opposite l l' → P l → P l'

theorem stable_true : Stable fun _ => True := ⟨fun _ => trivial, fun _ _ => trivial⟩

theorem stable_wellTyped : Stable WellTyped where
  typed h := by
    obtain ⟨w, hw, h⟩ := bind_eq_ok.mp h
    cases h
    exact Value.type?_of_coerce hw
  opposite h hl := by
    cases h with
    | integer | float =>
      obtain hnull | htype := hl
      · cases hnull
      · exact .inr htype

end Literal

/-! ## Bodies -/

variable {P : Literal → Prop}

/-- The constant has a value, and it has the property. -/
def BoundLiteral.Meets (P : Literal → Prop) (l : BoundLiteral) : Prop :=
  l.value ≠ .null ∧ P ⟨l.value, l.type⟩

theorem Literal.meets_bind {l : Literal} (hl : l.isNull = false) (h : P l) (n : Nat) :
    (l.bind n).Meets P := by
  refine ⟨fun hnull => ?_, h⟩
  have hvalue : l.value = .null := hnull
  rw [Literal.isNull, hvalue] at hl
  cases hl

namespace Term

/-- The constant has the property, or all constants of the condition have it and a value. -/
def Binds (P : Literal → Prop) : Term → Prop
  | .column _ => True
  | .literal l => P l
  | .filter f => ∀ l ∈ f.literals, l.Meets P

variable {m : ColumnMap} {p : String} {e : Expr} {t l r : Term} {f g : Filter}
  {n n₁ n₂ n' : Nat}

theorem binds_of_asFilter (hP : Literal.Stable P) (ht : t.Binds P) (h : AsFilter t n f n') :
    (filter f).Binds P := by
  cases h with
  | filter => exact ht
  | column =>
    have htrue : Literal.typed (.boolean true) .boolean = .ok (Literal.ofValue (.boolean true)) :=
      rfl
    exact List.forall_mem_singleton.mpr (Literal.meets_bind rfl (hP.typed htrue) n)

/-- With null nothing is bound, and any other constant is bound as it is. -/
theorem binds_of_compares {op : Comparison} (hl : l.Binds P) (hr : r.Binds P)
    (h : Compares op n l r f n') : (filter f).Binds P := by
  cases h with
  | literal hnull => exact List.forall_mem_singleton.mpr (Literal.meets_bind hnull hr n)
  | mirrored hnull => exact List.forall_mem_singleton.mpr (Literal.meets_bind hnull hl n)
  | columns | isNull | isNotNull | nullIs | nullIsNot =>
    exact fun _ hl => absurd hl List.not_mem_nil

theorem binds_connective {op : BinaryOp} {connective : Filter → Filter → Filter}
    (hop : connective? op = some connective) (hf : (filter f).Binds P)
    (hg : (filter g).Binds P) : (filter (connective f g)).Binds P := by
  cases op <;> cases hop <;> exact List.forall_mem_append.mpr ⟨hf, hg⟩

theorem binds_textTest {method c : String} {test : String → BoundLiteral → Filter}
    {b : BoundLiteral} (htest : textTest? method = some test) (hb : b.Meets P) :
    (filter (test c b)).Binds P := by
  obtain ⟨-, rfl⟩ | ⟨-, rfl⟩ | ⟨-, rfl⟩ := textTest?_cases htest <;>
    exact List.forall_mem_singleton.mpr hb

/-- A body binds what the constants in it are made into, by induction on the rules. -/
theorem binds_of_reads (hP : Literal.Stable P) (h : Reads m p e n t n')
    (he : ∀ l ∈ e.constants, P l) : t.Binds P := by
  induction h with
  | member | index | cast | convertColumn => trivial
  | constant => exact he _ (List.mem_singleton_self _)
  | negate _ hopposite ih => exact hP.opposite hopposite (ih he)
  | convertLiteral _ htyped => exact hP.typed htyped
  | textTest htest _ _ hnull htyped =>
    have htext := Literal.eq_of_typed_text hnull htyped
    have hvalue : Literal.isNull _ = false := congrArg Literal.isNull htext
    exact binds_textTest htest (Literal.meets_bind hvalue (hP.typed htyped) _)
  | comparison _ _ _ hcompares ihl ihr =>
    obtain ⟨hleft, hright⟩ := List.forall_mem_append.mp he
    exact binds_of_compares (ihl hleft) (ihr hright) hcompares
  | connective hop _ hf _ hg ihl ihr =>
    obtain ⟨hleft, hright⟩ := List.forall_mem_append.mp he
    exact binds_connective hop (binds_of_asFilter hP (ihl hleft) hf)
      (binds_of_asFilter hP (ihr hright) hg)
  | @not _ _ f _ _ _ _ hf ih =>
    have hinner : (filter f).Binds P := binds_of_asFilter hP (ih he) hf
    exact hinner

theorem binds_of_filterOfExpr (hP : Literal.Stable P)
    (h : filterOfExpr m p e n = .ok (f, n')) (he : ∀ l ∈ e.constants, P l) :
    ∀ l ∈ f.literals, l.Meets P := by
  obtain ⟨t, n₁, ht, hf⟩ := reads_of_filterOfExpr h
  exact binds_of_asFilter hP (binds_of_reads hP ht he) hf

end Term

/-! ## Chains -/

namespace Selection

variable {m : ColumnMap} {s s' : Selection} {n n' : Nat}

/-- All constants of the selection have a value and the property. -/
def Binds (P : Literal → Prop) (s : Selection) : Prop := ∀ l ∈ s.literals, l.Meets P

theorem literals_narrow (s : Selection) (f : Filter) :
    (s.narrow f).literals = s.literals ++ f.literals := by
  unfold literals narrow
  cases s.filter <;> rfl

theorem Binds.narrow {f : Filter} (hs : s.Binds P) (hf : ∀ l ∈ f.literals, l.Meets P) :
    (s.narrow f).Binds P := by
  rw [Binds, literals_narrow]
  exact List.forall_mem_append.mpr ⟨hs, hf⟩

/-- The body of a lambda that is a call's only argument. -/
theorem forall_mem_body {p : String} {body : Expr}
    (h : ∀ l ∈ Expr.constantsOfAll [.lambda p body], P l) : ∀ l ∈ body.constants, P l :=
  (List.forall_mem_append.mp h).1

theorem Applies.binds {method : String} {args : List Expr} (hP : Literal.Stable P)
    (h : Applies m method args s n s' n') (hs : s.Binds P)
    (hargs : ∀ l ∈ Expr.constantsOfAll args, P l) : s'.Binds P := by
  cases h with
  | filter _ hf | firstWhere _ _ hf =>
    exact hs.narrow (Term.binds_of_filterOfExpr hP hf (forall_mem_body hargs))
  | ordering | take | first | identity | record | column | asRows => exact hs

/-- A chain binds what its conditions bind, by induction on its calls. -/
theorem Drafts.binds {worksheet : String} {e : Expr} (hP : Literal.Stable P)
    (h : Drafts m worksheet e s n) (he : ∀ l ∈ e.constants, P l) : s.Binds P := by
  induction h with
  | source => exact fun _ hl => absurd hl List.not_mem_nil
  | call _ hcall ih =>
    obtain ⟨htarget, hargs⟩ := List.forall_mem_append.mp he
    exact hcall.binds hP (ih htarget) hargs

end Selection

/-! ## Parameters -/

namespace Style

/-- A parameter has the type of a constant of the condition, and its value that of the
constant's value: a pattern is text, as is the text that it is made of. -/
theorem exists_literal_of_parameter (style : Style) {f : Filter} (hf : f.TestsText)
    {q : Literal} (hq : q ∈ style.filterParameters f) :
    ∃ l ∈ f.literals, q.type = l.type ∧ q.value.type? = l.value.type? := by
  induction f with
  | comparison column op operand =>
    cases operand with
    | literal l =>
      obtain rfl := List.mem_singleton.mp hq
      exact ⟨l, List.mem_singleton_self l, rfl, rfl⟩
    | column other => exact absurd hq List.not_mem_nil
  | and left right ihl ihr | or left right ihl ihr =>
    rcases List.mem_append.mp hq with hq | hq
    · obtain ⟨l, hl, h⟩ := ihl hf.1 hq
      exact ⟨l, List.mem_append_left _ hl, h⟩
    · obtain ⟨l, hl, h⟩ := ihr hf.2 hq
      exact ⟨l, List.mem_append_right _ hl, h⟩
  | not inner ih => exact ih hf hq
  | contains column l | startsWith column l | endsWith column l =>
    obtain rfl := List.mem_singleton.mp hq
    obtain ⟨text, htext⟩ := hf
    exact ⟨l, List.mem_singleton_self l, rfl, by rw [htext]; rfl⟩
  | isNull column | isNotNull column => exact absurd hq List.not_mem_nil

end Style

theorem Selection.exists_literal_of_parameter {s : Selection} (hs : s.Writable) {d : Dialect}
    {matching : TextMatching} {q : Literal} (hq : q ∈ s.parameters d matching) :
    ∃ l ∈ s.literals, q.type = l.type ∧ q.value.type? = l.value.type? := by
  unfold parameters at hq
  unfold literals
  cases hf : s.filter with
  | none =>
    rw [hf] at hq
    exact absurd hq List.not_mem_nil
  | some f =>
    rw [hf] at hq
    exact Style.exists_literal_of_parameter _ (hs f hf).2 hq

/-- No statement that an expression is translated to binds null. When each constant of the
expression is null or of the type that it was declared with, each parameter is of the type that
it is bound with. -/
theorem parameters_typed {e : Expr} {m : ColumnMap} {worksheet : String} {d : Dialect}
    {settings : Settings} {tr : Translation}
    (h : translate e m worksheet d settings = .ok tr) :
    (∀ q ∈ tr.statement.parameters, q.value ≠ .null) ∧
      ((∀ l ∈ e.constants, l.WellTyped) →
        ∀ q ∈ tr.statement.parameters, q.value.type? = some q.type) := by
  obtain ⟨hselection, hstatement⟩ := translate_eq_ok.mp h
  obtain ⟨n, hdrafts⟩ := Selection.ofExpr_eq_ok.mp hselection
  obtain ⟨-, hwritable, hstatement⟩ := ofSelection_eq_ok.mp hstatement
  rw [← hstatement]
  constructor
  · intro q hq
    obtain ⟨l, hl, -, hvalue⟩ := Selection.exists_literal_of_parameter hwritable hq
    have hbound := (hdrafts.binds Literal.stable_true fun _ _ => trivial) l hl
    rw [ne_eq, ← Value.type?_eq_none_iff, hvalue, Value.type?_eq_none_iff]
    exact hbound.1
  · intro he q hq
    obtain ⟨l, hl, htype, hvalue⟩ := Selection.exists_literal_of_parameter hwritable hq
    obtain ⟨hnull, hwellTyped⟩ := (hdrafts.binds Literal.stable_wellTyped he) l hl
    rw [hvalue, htype]
    exact hwellTyped.resolve_left hnull

/-- A column alone, a comparison with null, a constant on the left that is converted, a number that
is converted before it is looked for as text, and a number negated. -/
theorem parameters_typed_mixed :
    let q : Query .rows :=
      ((Query.ofWorksheet .rows "S").filter fun x =>
        .binary .or (.binary .and (.member x "active") (.binary .ne .null (.member x "note")))
          (.binary .lt (.unary (.convert .integer) (.ofValue (.text " 30 ")))
            (.member x "age"))).filter fun x =>
        .binary .and
          (.call (.member x "city") "ends_with" [.unary (.convert .float) (.ofValue (.integer 7))])
          (.binary .eq (.member x "n") (.unary .negate (.ofValue (.integer 3))))
    let parameters : List Literal :=
      [⟨.boolean true, .boolean⟩, ⟨.integer 30, .integer⟩, ⟨.text "%7", .text⟩,
        ⟨.integer (-3), .integer⟩]
    ∃ tr, translate q.expr q.columns "S" .ansi { matching := .caseInsensitive } = .ok tr ∧
      tr.statement.parameters = parameters ∧ (∀ l ∈ q.expr.constants, l.WellTyped) ∧
      (∀ l ∈ parameters, l.value ≠ .null) ∧ ∀ l ∈ parameters, l.value.type? = some l.type := by
  intro q parameters
  have hresult : ((translate q.expr q.columns "S" .ansi
      { matching := .caseInsensitive }).toOption.map (·.statement.parameters)) =
        some parameters := by decide +kernel
  obtain ⟨tr, htr, hparameters⟩ := Option.map_eq_some_iff.mp hresult
  have htranslate := eq_ok_of_toOption htr
  have hconstants : ∀ l ∈ q.expr.constants, l.WellTyped := by decide
  obtain ⟨hvalues, htypes⟩ := parameters_typed htranslate
  rw [hparameters] at hvalues htypes
  exact ⟨tr, htranslate, hparameters, hconstants, hvalues, htypes hconstants⟩

end WorkbookQuery
