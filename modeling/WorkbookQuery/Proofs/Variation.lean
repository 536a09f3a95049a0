/-
  Two expressions that differ in the values of their constants. Their statements have the same
  text and bind equally many parameters (`text_of_varies`): no value of a condition, whatever
  quotes, wildcards or keywords are in it, changes what is asked. Where text is compared
  character by character a test at one end of the text writes the length of its constant, and
  there these lengths have to agree.
-/
import WorkbookQuery.Proofs.Numbering

namespace WorkbookQuery

/-! ## Expressions that vary -/

namespace Expr

/-- The number of characters that the constant of an expression shows, if the expression stands
for one. -/
def width? (e : Expr) : Option Nat :=
  match Term.ofExpr .empty "" e 0 with
  | .ok (.literal l, _) => some l.value.render.length
  | _ => none

/-- A test that looks at one end of a text. -/
def IsEndTest (method : String) : Prop := method = "starts_with" ∨ method = "ends_with"

instance {method : String} : Decidable (IsEndTest method) :=
  inferInstanceAs (Decidable (_ ∨ _))

mutual

/-- The expressions differ in constants of lambdas at most, and null stands where null stands.
In the body of a lambda `inBody` is true. If `exact` holds, what tests of one end of a text look
for is equally long. -/
inductive Varies (exact : Prop) : Bool → Expr → Expr → Prop where
  | source {inBody element} : Varies exact inBody (.source element) (.source element)
  | call {inBody target target' method args args'} : Varies exact inBody target target' →
      VaryEach exact inBody args args' →
      (exact → IsEndTest method → args.map width? = args'.map width?) →
      Varies exact inBody (.call target method args) (.call target' method args')
  | freeCall {inBody method args args'} : VaryEach exact inBody args args' →
      Varies exact inBody (.freeCall method args) (.freeCall method args')
  | lambda {inBody parameter body body'} : Varies exact true body body' →
      Varies exact inBody (.lambda parameter body) (.lambda parameter body')
  | parameter {inBody name} : Varies exact inBody (.parameter name) (.parameter name)
  | member {inBody target target' name} : Varies exact inBody target target' →
      Varies exact inBody (.member target name) (.member target' name)
  | index {inBody target target' key} : Varies exact inBody target target' →
      Varies exact inBody (.index target key) (.index target' key)
  | same {inBody l} : Varies exact inBody (.constant l) (.constant l)
  | changed {l l'} : l.isNull = l'.isNull → Varies exact true (.constant l) (.constant l')
  | binary {inBody op left left' right right'} : Varies exact inBody left left' →
      Varies exact inBody right right' →
      Varies exact inBody (.binary op left right) (.binary op left' right')
  | unary {inBody op operand operand'} : Varies exact inBody operand operand' →
      Varies exact inBody (.unary op operand) (.unary op operand')
  | record {inBody fields fields'} : FieldsVary exact inBody fields fields' →
      Varies exact inBody (.record fields) (.record fields')

inductive VaryEach (exact : Prop) : Bool → List Expr → List Expr → Prop where
  | nil {inBody} : VaryEach exact inBody [] []
  | cons {inBody e e' es es'} : Varies exact inBody e e' → VaryEach exact inBody es es' →
      VaryEach exact inBody (e :: es) (e' :: es')

inductive FieldsVary (exact : Prop) :
    Bool → List (String × Expr) → List (String × Expr) → Prop where
  | nil {inBody} : FieldsVary exact inBody [] []
  | cons {inBody name e e' rest rest'} : Varies exact inBody e e' →
      FieldsVary exact inBody rest rest' →
      FieldsVary exact inBody ((name, e) :: rest) ((name, e') :: rest')

end

/-- A lambda alone varies in its body. -/
theorem VaryEach.eq_lambda {exact inBody p body args}
    (h : VaryEach exact inBody [.lambda p body] args) :
    ∃ body', args = [.lambda p body'] ∧ Varies exact true body body' := by
  cases h with | cons hlambda hnil =>
  cases hnil
  cases hlambda with | lambda hbody =>
  exact ⟨_, rfl, hbody⟩

end Expr

/-! ## Constants -/

namespace Literal

variable {l l' : Literal} {type : ScalarType}

/-- Null stays null when it is converted, and nothing else becomes null. -/
theorem isNull_typed (h : Literal.typed l.value type = .ok l') : l'.isNull = l.isNull := by
  obtain ⟨w, hw, h⟩ := bind_eq_ok.mp h
  cases h
  unfold Value.coerce at hw
  split at hw
  · next hnull =>
    cases hw
    exact hnull.symm
  · next hnull =>
    split at hw <;> cases hw
    next hconvert =>
      have htype := Value.type?_of_convert? hconvert
      cases w with
      | null => cases htype
      | _ => exact (Bool.eq_false_iff.mpr hnull).symm

end Literal

namespace Term

variable {m : ColumnMap} {p : String} {e : Expr} {n n' : Nat} {l l' : Literal}

theorem Opposite.isNull (h : Opposite l l') : l.isNull = false ∧ l'.isNull = false := by
  cases h <;> exact ⟨rfl, rfl⟩

theorem negate_of_opposite {node : Expr} (h : Opposite l l') :
    negate node (.literal l) = .ok (.literal l') := by
  cases h with
  | integer hi => exact if_neg hi
  | float => rfl

theorem convert_of_typed {node : Expr} {type : ScalarType}
    (h : Literal.typed l.value type = .ok l') :
    convert node type (.literal l) = .ok (.literal l') := by
  simp only [convert, h]

/-- A constant is the same over every parameter, and under every number. -/
theorem ofExpr_of_literal {m' : ColumnMap} {p' : String} {k : Nat}
    (h : Reads m p e n (.literal l) n') : ofExpr m' p' e k = .ok (.literal l, k) := by
  generalize ht : Term.literal l = t at h
  induction h generalizing l with
  | constant =>
    cases ht
    rfl
  | negate _ hl ih =>
    cases ht
    rw [ofExpr, ih rfl, ok_bind]
    dsimp only
    rw [negate_of_opposite hl]
    rfl
  | convertLiteral _ hl ih =>
    cases ht
    rw [ofExpr, ih rfl, ok_bind]
    dsimp only
    rw [convert_of_typed hl]
    rfl
  | member | index | cast | textTest | comparison | connective | not | convertColumn => cases ht

theorem width?_of_reads (h : Reads m p e n (.literal l) n') :
    e.width? = some l.value.render.length := by
  rw [Expr.width?, ofExpr_of_literal h]

end Term

/-! ## Conditions -/

/-- Of its constant a text test writes the length at most, and this only when it compares
character by character at one end of the text. -/
theorem Style.testText_eq {style : Style} {column : String} {a b : Nat} {anchor : Anchor}
    (h : style.matching = .caseSensitive → anchor ≠ .anywhere → a = b) :
    style.testText column a anchor = style.testText column b anchor := by
  unfold testText
  cases hm : style.matching with
  | driverDefault | caseInsensitive => rfl
  | caseSensitive =>
    cases anchor with
    | anywhere => rfl
    | start | ending => rw [h hm nofun]

theorem Style.conditionText_eq (style : Style) (f : Option Filter) : style.conditionText f =
    ((f.map style.filterText).map fun text => " WHERE ".toList ++ text).getD [] := by
  cases f <;> rfl

namespace Term

/-- The terms stand for the same, but for the values of constants. -/
inductive Twin (style : Style) : Term → Term → Prop where
  | column {c} : Twin style (.column c) (.column c)
  | literal {a b} : Literal.isNull a = Literal.isNull b → Twin style (.literal a) (.literal b)
  | filter {f g} : style.filterText f = style.filterText g →
      Twin style (.filter f) (.filter g)

variable {m : ColumnMap} {p : String} {style : Style} {e e' : Expr} {t t' l l' r r' : Term}
  {f f' : Filter} {n n₁ n₁' : Nat}

theorem Twin.asFilter (ha : t.Twin style t') (h : AsFilter t n f n₁)
    (h' : AsFilter t' n f' n₁') : style.filterText f = style.filterText f' ∧ n₁ = n₁' := by
  cases ha with
  | column =>
    cases h
    cases h'
    exact ⟨rfl, rfl⟩
  | literal => cases h
  | filter hf =>
    cases h
    cases h'
    exact ⟨hf, rfl⟩

/-- Whether a constant is null decides how a column is compared with it, and its value does
not. -/
theorem filterText_of_compares {op : Comparison} {c : String} {a b : Literal}
    (hnull : a.isNull = b.isNull) (h : Compares op n (.column c) (.literal a) f n₁)
    (h' : Compares op n (.column c) (.literal b) f' n₁') :
    style.filterText f = style.filterText f' ∧ n₁ = n₁' := by
  cases h with
  | literal ha =>
    cases h' with
    | literal => exact ⟨rfl, rfl⟩
    | isNull hb | isNotNull hb => cases ha.symm.trans (hnull.trans hb)
  | isNull ha =>
    cases h' with
    | literal hb => cases ha.symm.trans (hnull.trans hb)
    | isNull => exact ⟨rfl, rfl⟩
  | isNotNull ha =>
    cases h' with
    | literal hb => cases ha.symm.trans (hnull.trans hb)
    | isNotNull => exact ⟨rfl, rfl⟩

theorem Twin.compares {op : Comparison} (hl : l.Twin style l') (hr : r.Twin style r')
    (h : Compares op n l r f n₁) (h' : Compares op n l' r' f' n₁') :
    style.filterText f = style.filterText f' ∧ n₁ = n₁' := by
  cases hl with
  | filter => cases h
  | column =>
    cases hr with
    | filter => cases h
    | column =>
      cases h
      cases h'
      exact ⟨rfl, rfl⟩
    | literal hnull => exact filterText_of_compares hnull h h'
  | literal hnull =>
    cases hr with
    | filter | literal => cases h
    | column => exact filterText_of_compares hnull h.swapped h'.swapped

theorem filterText_textTest {method c a b : String} {test : String → BoundLiteral → Filter}
    {type type' : ScalarType} {k k' : Nat} (htest : textTest? method = some test)
    (hlength : style.matching = .caseSensitive → Expr.IsEndTest method → a.length = b.length) :
    style.filterText (test c (Literal.bind ⟨.text a, type⟩ k)) =
      style.filterText (test c (Literal.bind ⟨.text b, type'⟩ k')) := by
  obtain ⟨-, rfl⟩ | ⟨hmethod, rfl⟩ | ⟨hmethod, rfl⟩ := textTest?_cases htest
  · exact Style.testText_eq fun _ h => absurd rfl h
  · exact Style.testText_eq fun hm _ => hlength hm (.inl hmethod)
  · exact Style.testText_eq fun hm _ => hlength hm (.inr hmethod)

/-- No operator both compares and connects. -/
theorem connective?_of_comparison? {op : BinaryOp} {c : Comparison}
    (h : comparison? op = some c) : connective? op = none := by
  cases op <;> cases h <;> rfl

theorem filterText_connective {op : BinaryOp} {connective : Filter → Filter → Filter}
    {g g' : Filter} (hop : connective? op = some connective)
    (hf : style.filterText f = style.filterText f')
    (hg : style.filterText g = style.filterText g') :
    style.filterText (connective f g) = style.filterText (connective f' g') := by
  have hjoined (keyword : String) :
      "(".toList ++ style.filterText f ++ keyword.toList ++ style.filterText g ++ ")".toList =
        "(".toList ++ style.filterText f' ++ keyword.toList ++ style.filterText g' ++
          ")".toList := by rw [hf, hg]
  cases op <;> cases hop
  · exact hjoined " AND "
  · exact hjoined " OR "

/-- What varies stands for the same, by induction on the rules for one of the expressions; the
rules for the other have to be the same ones. -/
theorem twin_of_reads (hv : e.Varies (style.matching = .caseSensitive) true e')
    (h : Reads m p e n t n₁) (h' : Reads m p e' n t' n₁') :
    t.Twin style t' ∧ n₁ = n₁' := by
  induction h generalizing e' t' n₁' with
  | member =>
    cases hv with | member htarget =>
    cases htarget
    cases h'
    exact ⟨.column, rfl⟩
  | index =>
    cases hv with | index htarget =>
    cases htarget
    cases h'
    exact ⟨.column, rfl⟩
  | constant =>
    cases hv with
    | same =>
      cases h'
      exact ⟨.literal rfl, rfl⟩
    | changed hnull =>
      cases h'
      exact ⟨.literal hnull, rfl⟩
  | cast _ ih =>
    cases hv with | call htarget hargs =>
    cases hargs
    cases h' with | cast h' =>
    exact ih htarget h'
  | @textTest target arg method test c l w k k₁ k₂ htest _ harg hl hw ihtarget iharg =>
    cases hv with | call htarget hargs hwidth =>
    cases hargs with | cons hv hnil =>
    cases hnil
    cases h' with | textTest htest' htarget' harg' hl' hw' =>
    rw [htest] at htest'
    cases htest'
    obtain ⟨hc, rfl⟩ := ihtarget htarget htarget'
    cases hc
    obtain ⟨-, rfl⟩ := iharg hv harg'
    rw [Literal.eq_of_typed_text hl hw, Literal.eq_of_typed_text hl' hw']
    -- of what is looked for the text holds at most the length, and there the lengths agree
    refine ⟨.filter (filterText_textTest htest fun hm hend => ?_), rfl⟩
    have hlength := hwidth hm hend
    rw [List.map_singleton, List.map_singleton, width?_of_reads harg, width?_of_reads harg']
      at hlength
    exact Option.some.inj (List.head_eq_of_cons_eq hlength)
  | comparison hop _ _ hcompares ihl ihr =>
    cases hv with | binary hleft hright =>
    cases h' with
    | comparison hop' hl' hr' hcompares' =>
      rw [hop] at hop'
      cases hop'
      obtain ⟨hl, rfl⟩ := ihl hleft hl'
      obtain ⟨hr, rfl⟩ := ihr hright hr'
      obtain ⟨htext, rfl⟩ := hl.compares hr hcompares hcompares'
      exact ⟨.filter htext, rfl⟩
    | connective hop' =>
      rw [connective?_of_comparison? hop] at hop'
      cases hop'
  | connective hop _ hf _ hg ihl ihr =>
    cases hv with | binary hleft hright =>
    cases h' with
    | comparison hop' =>
      rw [connective?_of_comparison? hop'] at hop
      cases hop
    | connective hop' hl' hf' hr' hg' =>
      rw [hop] at hop'
      cases hop'
      obtain ⟨hl, rfl⟩ := ihl hleft hl'
      obtain ⟨hleft, rfl⟩ := hl.asFilter hf hf'
      obtain ⟨hr, rfl⟩ := ihr hright hr'
      obtain ⟨hright, rfl⟩ := hr.asFilter hg hg'
      exact ⟨.filter (filterText_connective hop hleft hright), rfl⟩
  | not _ hf ih =>
    cases hv with | unary hoperand =>
    cases h' with | not h' hf' =>
    obtain ⟨hinner, rfl⟩ := ih hoperand h'
    obtain ⟨htext, rfl⟩ := hinner.asFilter hf hf'
    exact ⟨.filter (congrArg (fun text => "(NOT ".toList ++ text ++ ")".toList) htext), rfl⟩
  | negate _ hl ih =>
    cases hv with | unary hoperand =>
    cases h' with | negate h' hl' =>
    obtain ⟨-, rfl⟩ := ih hoperand h'
    exact ⟨.literal (hl.isNull.2.trans hl'.isNull.2.symm), rfl⟩
  | convertColumn _ ih =>
    cases hv with | unary hoperand =>
    cases h' with
    | convertColumn h' => exact ih hoperand h'
    | convertLiteral h' => cases (ih hoperand h').1
  | convertLiteral _ hl ih =>
    cases hv with | unary hoperand =>
    cases h' with
    | convertColumn h' => cases (ih hoperand h').1
    | convertLiteral h' hl' =>
      obtain ⟨hinner, rfl⟩ := ih hoperand h'
      cases hinner with | literal hnull =>
      refine ⟨.literal ?_, rfl⟩
      rw [Literal.isNull_typed hl, hnull, Literal.isNull_typed hl']

end Term

/-! ## Chains -/

namespace Term

variable {m : ColumnMap} {p c c' : String} {style : Style} {e e' : Expr} {f f' : Filter}
  {n n₁ n₁' : Nat}

theorem twin_of_filterOfExpr (hv : e.Varies (style.matching = .caseSensitive) true e')
    (h : filterOfExpr m p e n = .ok (f, n₁)) (h' : filterOfExpr m p e' n = .ok (f', n₁')) :
    style.filterText f = style.filterText f' ∧ n₁ = n₁' := by
  obtain ⟨t, k, ht, hf⟩ := reads_of_filterOfExpr h
  obtain ⟨t', k', ht', hf'⟩ := reads_of_filterOfExpr h'
  obtain ⟨htwin, rfl⟩ := twin_of_reads hv ht ht'
  exact htwin.asFilter hf hf'

theorem twin_of_columnOfExpr (hv : e.Varies (style.matching = .caseSensitive) true e')
    (h : columnOfExpr m p e n = .ok (c, n₁)) (h' : columnOfExpr m p e' n = .ok (c', n₁')) :
    c = c' ∧ n₁ = n₁' := by
  obtain ⟨htwin, rfl⟩ := twin_of_reads hv (reads_of_columnOfExpr h) (reads_of_columnOfExpr h')
  cases htwin
  exact ⟨rfl, rfl⟩

end Term

namespace Selection

variable {m : ColumnMap} {style : Style} {s s' s₁ s₁' : Selection} {n n₁ n₁' : Nat}

theorem twin_of_fieldColumns {p : String} {fields fields' : List (String × Expr)}
    {columns columns' : List ProjectedColumn}
    (hv : Expr.FieldsVary (style.matching = .caseSensitive) true fields fields')
    (h : fieldColumns m p fields n = .ok (columns, n₁))
    (h' : fieldColumns m p fields' n = .ok (columns', n₁')) : columns = columns' ∧ n₁ = n₁' := by
  induction fields generalizing fields' columns columns' n n₁ n₁' with
  | nil =>
    cases hv
    cases h
    cases h'
    exact ⟨rfl, rfl⟩
  | cons field fields ih =>
    cases hv with | cons hfield hrest =>
    simp only [fieldColumns, bind_eq_ok, pure_eq_ok, Prod.exists, Prod.mk.injEq] at h h'
    obtain ⟨c, k, hc, rest, k', hcolumns, rfl, rfl⟩ := h
    obtain ⟨c', _, hc', rest', _, hcolumns', rfl, rfl⟩ := h'
    obtain ⟨rfl, rfl⟩ := Term.twin_of_columnOfExpr hfield hc hc'
    obtain ⟨rfl, rfl⟩ := ih hrest hcolumns hcolumns'
    exact ⟨rfl, rfl⟩

/-- The selections differ in their conditions at most, and these are written alike. -/
def Twin (style : Style) (s s' : Selection) : Prop :=
  ∃ filter, s' = { s with filter } ∧ filter.map style.filterText = s.filter.map style.filterText

/-- A further condition joins what is there on both sides. -/
theorem Twin.narrow {f f' : Filter} (h : s.Twin style s')
    (hf : style.filterText f = style.filterText f') :
    (s.narrow f).Twin style (s'.narrow f') := by
  obtain ⟨filter, rfl, hfilter⟩ := h
  refine ⟨_, rfl, ?_⟩
  unfold Selection.narrow
  cases hs : s.filter with
  | none =>
    rw [hs, Option.map_none, Option.map_eq_none_iff] at hfilter
    rw [hfilter]
    exact congrArg some hf.symm
  | some earlier =>
    rw [hs] at hfilter
    obtain ⟨earlier', rfl, hearlier⟩ := Option.map_eq_some_iff.mp hfilter
    have hand : Term.connective? .and = some .and := rfl
    exact congrArg some (Term.filterText_connective hand hearlier hf.symm)

/-- A call does the same to selections that are alike when its arguments vary. -/
theorem Twin.applies {method : String} {args args' : List Expr} (hs : s.Twin style s')
    (hv : Expr.VaryEach (style.matching = .caseSensitive) false args args')
    (h : Applies m method args s n s₁ n₁) (h' : Applies m method args' s' n s₁' n₁') :
    s₁.Twin style s₁' ∧ n₁ = n₁' := by
  have htwin := hs
  obtain ⟨filter, rfl, hfilter⟩ := hs
  -- the method decides which rule the second call goes by, and its arguments have the forms
  -- of those of the first
  cases h with
  | filter _ hf =>
    obtain ⟨body', rfl, hbody⟩ := hv.eq_lambda
    obtain ⟨_, _, _, hargs, -, hf', rfl⟩ := applies_where.mp h'
    cases hargs
    obtain ⟨htext, rfl⟩ := Term.twin_of_filterOfExpr hbody hf hf'
    exact ⟨htwin.narrow htext, rfl⟩
  | ordering hmethod _ _ hc =>
    obtain ⟨body', rfl, hbody⟩ := hv.eq_lambda
    obtain ⟨_, _, _, hargs, -, -, hc', rfl⟩ := (applies_ordering hmethod).mp h'
    cases hargs
    obtain ⟨rfl, rfl⟩ := Term.twin_of_columnOfExpr hbody hc hc'
    exact ⟨⟨filter, rfl, hfilter⟩, rfl⟩
  | take hl =>
    cases hv with | cons harg hnil =>
    cases harg
    cases hnil
    obtain ⟨_, _, hargs, hl', -, rfl, rfl⟩ := applies_take.mp h'
    cases hargs
    rw [hl] at hl'
    cases hl'
    exact ⟨⟨filter, rfl, hfilter⟩, rfl⟩
  | first hmethod =>
    cases hv
    obtain ⟨-, rfl, rfl⟩ | ⟨_, _, _, hargs, -⟩ := (applies_first hmethod).mp h'
    · exact ⟨⟨filter, rfl, hfilter⟩, rfl⟩
    · cases hargs
  | firstWhere hmethod _ hf =>
    obtain ⟨body', rfl, hbody⟩ := hv.eq_lambda
    obtain ⟨hargs, -⟩ | ⟨_, _, _, hargs, -, hf', rfl⟩ := (applies_first hmethod).mp h'
    · cases hargs
    · cases hargs
      obtain ⟨htext, rfl⟩ := Term.twin_of_filterOfExpr hbody hf hf'
      obtain ⟨filter', hnarrow, hfilter'⟩ := htwin.narrow htext
      exact ⟨⟨filter', by rw [hnarrow], hfilter'⟩, rfl⟩
  | identity =>
    obtain ⟨body', rfl, hbody⟩ := hv.eq_lambda
    cases hbody
    obtain ⟨-, ⟨_, hargs, rfl, rfl⟩ | ⟨_, _, _, hargs, -⟩ | ⟨_, _, _, hargs, hc, -⟩⟩ :=
      applies_select.mp h'
    · exact ⟨htwin, rfl⟩
    · cases hargs
    · cases hargs
      cases hc
  | record _ hcolumns =>
    obtain ⟨body', rfl, hbody⟩ := hv.eq_lambda
    cases hbody with | record hfields =>
    obtain ⟨-, ⟨_, hargs, -⟩ | ⟨_, _, _, hargs, hcolumns', rfl⟩ | ⟨_, _, _, hargs, hc, -⟩⟩ :=
      applies_select.mp h'
    · cases hargs
    · cases hargs
      obtain ⟨rfl, rfl⟩ := twin_of_fieldColumns hfields hcolumns hcolumns'
      exact ⟨⟨filter, rfl, hfilter⟩, rfl⟩
    · cases hargs
      cases hc
  | column _ hc =>
    obtain ⟨body', rfl, hbody⟩ := hv.eq_lambda
    obtain ⟨-, ⟨_, hargs, -⟩ | ⟨_, _, _, hargs, -⟩ | ⟨_, _, _, hargs, hc', rfl⟩⟩ :=
      applies_select.mp h'
    · cases hargs
      cases hbody
      cases hc
    · cases hargs
      cases hbody
      cases hc
    · cases hargs
      obtain ⟨rfl, rfl⟩ := Term.twin_of_columnOfExpr hbody hc hc'
      exact ⟨⟨filter, rfl, hfilter⟩, rfl⟩
  | asRows =>
    cases hv
    obtain ⟨-, rfl, rfl⟩ := applies_as_rows.mp h'
    exact ⟨⟨filter, rfl, hfilter⟩, rfl⟩

/-- So do chains, by induction on the calls of one of them. -/
theorem twin_of_drafts {worksheet : String} {e e' : Expr}
    (hv : e.Varies (style.matching = .caseSensitive) false e')
    (h : Drafts m worksheet e s n) (h' : Drafts m worksheet e' s' n₁) :
    s.Twin style s' ∧ n = n₁ := by
  induction h generalizing e' s' n₁ with
  | source =>
    cases hv
    cases h'
    exact ⟨⟨none, rfl, rfl⟩, rfl⟩
  | call _ hcall ih =>
    cases hv with | call htarget hargs =>
    cases h' with | call htarget' hcall' =>
    obtain ⟨ha, rfl⟩ := ih htarget htarget'
    exact ha.applies hargs hcall hcall'

/-- Selections that differ in the values of constants are written with the same text. -/
theorem Twin.text_eq {d : Dialect} {matching : TextMatching}
    (h : s.Twin ⟨d, matching⟩ s') : s'.text d matching = s.text d matching := by
  obtain ⟨filter, rfl, hfilter⟩ := h
  have hcondition : Style.conditionText ⟨d, matching⟩ filter =
      Style.conditionText ⟨d, matching⟩ s.filter := by
    simp only [Style.conditionText_eq, hfilter]
  unfold Selection.text
  simp only [hcondition]

end Selection

/-- Expressions that differ only in the values and the types of the constants of their lambdas,
null standing where null stands, are translated to statements with the same text and equally
many parameters. Only where text is compared character by character, what the tests of one end
of a text look for has to be equally long. -/
theorem text_of_varies {e e' : Expr} {m : ColumnMap} {worksheet : String} {d : Dialect}
    {settings : Settings} {tr tr' : Translation}
    (hv : e.Varies (settings.matching = .caseSensitive) false e')
    (h : translate e m worksheet d settings = .ok tr)
    (h' : translate e' m worksheet d settings = .ok tr') :
    tr'.statement.text = tr.statement.text ∧
      tr'.statement.parameters.length = tr.statement.parameters.length := by
  obtain ⟨hs, ht⟩ := translate_eq_ok.mp h
  obtain ⟨hs', ht'⟩ := translate_eq_ok.mp h'
  obtain ⟨n, hdrafts⟩ := Selection.ofExpr_eq_ok.mp hs
  obtain ⟨n', hdrafts'⟩ := Selection.ofExpr_eq_ok.mp hs'
  have htwin : tr.selection.Twin ⟨d, settings.matching⟩ tr'.selection ∧ n = n' :=
    Selection.twin_of_drafts hv hdrafts hdrafts'
  have hcount : tr'.selection.parameterCount = tr.selection.parameterCount := by
    rw [hdrafts.counted.2, hdrafts'.counted.2, htwin.2]
  obtain ⟨-, -, hstatement⟩ := ofSelection_eq_ok.mp ht
  obtain ⟨-, -, hstatement'⟩ := ofSelection_eq_ok.mp ht'
  rw [← hstatement, ← hstatement', Selection.length_parameters, Selection.length_parameters]
  exact ⟨congrArg String.ofList htwin.1.text_eq, hcount⟩

/-- A harmless condition and one with quotes, wildcards and a keyword, compared character by
character: what the names start with has two characters in both, once a number as text. -/
theorem text_of_varies_hostile :
    let query (start part age : Value) : Expr :=
      .call (.source .dynamic) "where" [.lambda "x" (.binary .and
        (.binary .or
          (.call (.member (.parameter "x") "name") "starts_with"
            [.unary (.convert .text) (.ofValue start)])
          (.call (.member (.parameter "x") "city") "contains" [.ofValue part]))
        (.binary .gt (.member (.parameter "x") "age") (.ofValue age)))]
    let settings : Settings := { matching := .caseSensitive }
    let e := query (.text "Al") (.text "burg") (.integer 30)
    let e' := query (.integer 12) (.text "%' OR 1=1") (.boolean true)
    ∃ tr tr', translate e .empty "S" (.ofFormat .excel2007) settings = .ok tr ∧
      translate e' .empty "S" (.ofFormat .excel2007) settings = .ok tr' ∧
      tr'.statement.text = tr.statement.text ∧
      tr'.statement.parameters.length = tr.statement.parameters.length := by
  intro query settings e e'
  have hv : e.Varies (settings.matching = .caseSensitive) false e' := by
    refine .call .source (.cons (.lambda (.binary (.binary ?start ?part) ?age)) .nil)
      fun _ hend => absurd hend (by decide)
    case start =>
      exact .call (.member .parameter) (.cons (.unary (.changed rfl)) .nil)
        fun _ _ => by decide +kernel
    case part =>
      exact .call (.member .parameter) (.cons (.changed rfl) .nil)
        fun _ hend => absurd hend (by decide)
    case age => exact .binary (.member .parameter) (.changed rfl)
  have h : ∃ tr, translate e .empty "S" (.ofFormat .excel2007) settings = .ok tr := ⟨_, rfl⟩
  have h' : ∃ tr, translate e' .empty "S" (.ofFormat .excel2007) settings = .ok tr := ⟨_, rfl⟩
  obtain ⟨tr, htr⟩ := h
  obtain ⟨tr', htr'⟩ := h'
  exact ⟨tr, tr', htr, htr', text_of_varies hv htr htr'⟩

end WorkbookQuery
