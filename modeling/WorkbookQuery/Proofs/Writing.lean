/-
  What is written. A condition is written exactly when its constants are numbered in the order
  in which they stand and every text test has text to look for; then its text and its
  parameters are functions of the condition alone (`filter_eq_ok`), and so are those of a
  statement (`ofSelection_eq_ok`).
-/
import WorkbookQuery.Proofs.Outcome
import WorkbookQuery.Statement.Emission

namespace WorkbookQuery

namespace Clause

theorem words_append (s : String) (c : Clause) :
    words s ++ c = ⟨s.toList ++ c.text, c.parameters⟩ := rfl

theorem append_words (c : Clause) (s : String) :
    c ++ words s = ⟨c.text ++ s.toList, c.parameters⟩ :=
  congrArg (Clause.mk _) (List.append_nil c.parameters)

/-- Two parts in parentheses with a keyword between them. -/
theorem binary_eq (a b : Clause) (keyword : String) :
    words "(" ++ a ++ words keyword ++ b ++ words ")" =
      ⟨"(".toList ++ a.text ++ keyword.toList ++ b.text ++ ")".toList,
        a.parameters ++ b.parameters⟩ := by
  rw [append_words, words_append, append_words, text_append, parameters_append]

theorem placeholder_bind {l : BoundLiteral} {v : Value} {n : Nat} {g : Clause → Clause}
    {c : Clause} :
    (placeholder l v n >>= fun p => pure (g p)) = .ok c ↔
      l.position = n ∧ g ⟨['?'], [⟨v, l.type⟩]⟩ = c := by
  have hplaceholder : ∀ p, placeholder l v n = .ok p ↔
      l.position = n ∧ ⟨['?'], [⟨v, l.type⟩]⟩ = p := by
    intro p
    unfold placeholder
    split <;> simp [*]
  simp only [bind_eq_ok, pure_eq_ok, hplaceholder]
  constructor
  · rintro ⟨p, ⟨hn, rfl⟩, hc⟩
    exact ⟨hn, hc⟩
  · rintro ⟨hn, hc⟩
    exact ⟨_, ⟨hn, rfl⟩, hc⟩

end Clause

namespace Filter

/-- The constants are numbered from `n` on, in the order in which they stand. -/
def Numbered (f : Filter) (n : Nat) : Prop :=
  f.literals.map BoundLiteral.position = List.range' n f.literals.length

/-- Every test of text has text to look for. -/
def TestsText : Filter → Prop
  | .and left right | .or left right => left.TestsText ∧ right.TestsText
  | .not inner => inner.TestsText
  | .contains _ l | .startsWith _ l | .endsWith _ l => ∃ text, l.value = .text text
  | .comparison .. | .isNull _ | .isNotNull _ => True

theorem numbered_singleton {l : BoundLiteral} {n : Nat} :
    [l].map BoundLiteral.position = List.range' n [l].length ↔ l.position = n := by
  simp

theorem numbered_append {ls ms : List BoundLiteral} {n : Nat} :
    (ls ++ ms).map BoundLiteral.position = List.range' n (ls ++ ms).length ↔
      ls.map BoundLiteral.position = List.range' n ls.length ∧
        ms.map BoundLiteral.position = List.range' (n + ls.length) ms.length := by
  rw [List.map_append, List.length_append, ← List.range'_append_1]
  constructor
  · intro h
    exact List.append_inj h (by simp)
  · rintro ⟨hl, hm⟩
    rw [hl, hm]

end Filter

namespace Style

variable {style : Style}

/-! ## Text tests -/

/-- A comparison of the text at one end with a constant of that length. -/
def atEndText (style : Style) (column function : String) (length : Nat) : List Char :=
  "STRCOMP(".toList ++ function.toList ++ "(".toList ++ style.dialect.quote column ++
    (", " ++ toString length ++ "), ").toList ++ ['?'] ++ ", 0) = 0".toList

/-- A text test. Of its constant only the length is written. -/
def testText (style : Style) (column : String) (length : Nat) (anchor : Anchor) : List Char :=
  match style.matching, anchor with
  | .driverDefault, _ =>
    style.dialect.quote column ++ " LIKE ".toList ++ ['?'] ++
      style.dialect.likeEscape.clause.toList
  | .caseInsensitive, _ =>
    style.dialect.upperFunction.toList ++ "(".toList ++ style.dialect.quote column ++
      ")".toList ++ " LIKE ".toList ++ ['?'] ++ style.dialect.likeEscape.clause.toList
  | .caseSensitive, .anywhere =>
    "INSTR(1, ".toList ++ style.dialect.quote column ++ ", ".toList ++ ['?'] ++
      ", 0) > 0".toList
  | .caseSensitive, .start => style.atEndText column "LEFT" length
  | .caseSensitive, .ending => style.atEndText column "RIGHT" length

/-- What a text test binds for its constant: a pattern, or the text as it is. -/
def testValue (style : Style) (text : String) (anchor : Anchor) : String :=
  match style.matching with
  | .driverDefault =>
    String.ofList (anchor.pattern (style.dialect.likeEscape.escape text.toList))
  | .caseInsensitive =>
    String.ofList (anchor.pattern (style.dialect.likeEscape.escape (Text.upper text).toList))
  | .caseSensitive => text

def testParameter (style : Style) (l : BoundLiteral) (anchor : Anchor) : Literal :=
  ⟨.text (style.testValue l.value.render anchor), l.type⟩

theorem textTest_eq_ok {column : String} {l : BoundLiteral} {anchor : Anchor} {n : Nat}
    {c : Clause} :
    style.textTest column l anchor n = .ok c ↔ l.position = n ∧ (∃ text, l.value = .text text) ∧
      ⟨style.testText column l.value.render.length anchor, [style.testParameter l anchor]⟩ =
        c := by
  unfold textTest testParameter testText testValue
  cases hv : l.value with
  | text t =>
    have htext : ∃ text, Value.text t = .text text := ⟨t, rfl⟩
    simp only [htext, true_and]
    cases hm : style.matching with
    | driverDefault | caseInsensitive => exact Clause.placeholder_bind
    | caseSensitive => cases anchor <;> exact Clause.placeholder_bind
  | _ => simp

/-! ## Conditions -/

def operandText (style : Style) : Operand → List Char
  | .literal _ => ['?']
  | .column other => style.dialect.quote other

def filterText (style : Style) : Filter → List Char
  | .comparison column op operand =>
    style.dialect.quote column ++ (" " ++ op.symbol ++ " ").toList ++ style.operandText operand
  | .and left right =>
    "(".toList ++ style.filterText left ++ " AND ".toList ++ style.filterText right ++
      ")".toList
  | .or left right =>
    "(".toList ++ style.filterText left ++ " OR ".toList ++ style.filterText right ++
      ")".toList
  | .not inner => "(NOT ".toList ++ style.filterText inner ++ ")".toList
  | .contains column l => style.testText column l.value.render.length .anywhere
  | .startsWith column l => style.testText column l.value.render.length .start
  | .endsWith column l => style.testText column l.value.render.length .ending
  | .isNull column => style.dialect.quote column ++ " IS NULL".toList
  | .isNotNull column => style.dialect.quote column ++ " IS NOT NULL".toList

/-- What is bound for the constants of a condition. -/
def filterParameters (style : Style) : Filter → List Literal
  | .comparison _ _ (.literal l) => [⟨l.value, l.type⟩]
  | .comparison _ _ (.column _) => []
  | .and left right | .or left right =>
    style.filterParameters left ++ style.filterParameters right
  | .not inner => style.filterParameters inner
  | .contains _ l => [style.testParameter l .anywhere]
  | .startsWith _ l => [style.testParameter l .start]
  | .endsWith _ l => [style.testParameter l .ending]
  | .isNull _ | .isNotNull _ => []

/-- One parameter for each constant. -/
theorem length_filterParameters (style : Style) (f : Filter) :
    (style.filterParameters f).length = f.literals.length := by
  induction f with
  | comparison column op operand => cases operand <;> rfl
  | and left right ihl ihr | or left right ihl ihr =>
    rw [filterParameters, Filter.literals, List.length_append, List.length_append, ihl, ihr]
  | not inner ih => exact ih
  | _ => rfl

/-- By induction on the condition: a part is numbered from where the part before it ends. -/
theorem filter_eq_ok {f : Filter} {n : Nat} {c : Clause} :
    style.filter f n = .ok c ↔ f.Numbered n ∧ f.TestsText ∧
      ⟨style.filterText f, style.filterParameters f⟩ = c := by
  induction f generalizing n c with
  | comparison column op operand =>
    cases operand with
    | literal l =>
      have h := Clause.placeholder_bind (l := l) (v := l.value) (n := n) (c := c)
        (g := fun p => style.name column ++ .words (" " ++ op.symbol ++ " ") ++ p)
      refine h.trans ?_
      rw [Filter.Numbered, Filter.literals, Filter.numbered_singleton]
      exact ⟨fun h => ⟨h.1, trivial, h.2⟩, fun h => ⟨h.1, h.2.2⟩⟩
    | column other =>
      rw [filter, pure_eq_ok]
      exact ⟨fun h => ⟨rfl, trivial, h⟩, fun h => h.2.2⟩
  | and left right ihl ihr | or left right ihl ihr =>
    simp only [filter, bind_eq_ok, pure_eq_ok, ihl, ihr, Clause.binary_eq]
    constructor
    · rintro ⟨_, ⟨hl, htl, rfl⟩, _, ⟨hr, htr, rfl⟩, h⟩
      rw [length_filterParameters] at hr
      exact ⟨Filter.numbered_append.mpr ⟨hl, hr⟩, ⟨htl, htr⟩, h⟩
    · rintro ⟨hn, ⟨htl, htr⟩, h⟩
      obtain ⟨hl, hr⟩ := Filter.numbered_append.mp hn
      rw [← style.length_filterParameters] at hr
      exact ⟨_, ⟨hl, htl, rfl⟩, _, ⟨hr, htr, rfl⟩, h⟩
  | not inner ih =>
    simp only [filter, bind_eq_ok, pure_eq_ok, ih, Clause.append_words, Clause.words_append]
    constructor
    · rintro ⟨_, ⟨hn, ht, rfl⟩, h⟩
      exact ⟨hn, ht, h⟩
    · rintro ⟨hn, ht, h⟩
      exact ⟨_, ⟨hn, ht, rfl⟩, h⟩
  | contains column l | startsWith column l | endsWith column l =>
    refine textTest_eq_ok.trans ?_
    rw [Filter.Numbered, Filter.literals, Filter.numbered_singleton]
    rfl
  | isNull column | isNotNull column =>
    rw [filter, pure_eq_ok]
    exact ⟨fun h => ⟨rfl, trivial, h⟩, fun h => h.2.2⟩

def conditionText (style : Style) : Option Filter → List Char
  | some f => " WHERE ".toList ++ style.filterText f
  | none => []

def conditionParameters (style : Style) : Option Filter → List Literal
  | some f => style.filterParameters f
  | none => []

end Style

/-! ## Statements -/

namespace Selection

/-- The constants of the condition are numbered from zero, and its text tests have texts. -/
def Writable (s : Selection) : Prop := ∀ f ∈ s.filter, f.Numbered 0 ∧ f.TestsText

def text (s : Selection) (d : Dialect) (matching : TextMatching) : List Char :=
  "SELECT ".toList ++ d.leadingLimit s.limit ++ d.projection s.projection ++ " FROM ".toList ++
    d.worksheetReference s.worksheet ++ Style.conditionText ⟨d, matching⟩ s.filter ++
    d.ordering s.ordering ++ d.trailingLimit s.limit

def parameters (s : Selection) (d : Dialect) (matching : TextMatching) : List Literal :=
  Style.conditionParameters ⟨d, matching⟩ s.filter

/-- One parameter for each constant. -/
theorem length_parameters (s : Selection) (d : Dialect) (matching : TextMatching) :
    (s.parameters d matching).length = s.parameterCount := by
  unfold parameters parameterCount literals
  cases s.filter with
  | none => rfl
  | some f => exact Style.length_filterParameters _ f

end Selection

theorem condition_eq_ok {style : Style} {f : Option Filter} {c : Clause} :
    Statement.condition style f = .ok c ↔ (∀ g ∈ f, g.Numbered 0 ∧ g.TestsText) ∧
      ⟨style.conditionText f, style.conditionParameters f⟩ = c := by
  cases f with
  | none =>
    constructor
    · intro h
      exact ⟨nofun, Except.ok.inj h⟩
    · intro h
      exact congrArg Except.ok h.2
  | some f =>
    simp only [Statement.condition, bind_eq_ok, pure_eq_ok, Style.filter_eq_ok,
      Clause.words_append]
    constructor
    · rintro ⟨_, ⟨hn, ht, rfl⟩, h⟩
      exact ⟨fun g hg => Option.some.inj hg ▸ ⟨hn, ht⟩, h⟩
    · rintro ⟨hf, h⟩
      exact ⟨_, ⟨(hf f rfl).1, (hf f rfl).2, rfl⟩, h⟩

/-- A selection is written exactly when the settings suit the dialect and its condition can be
written. -/
theorem ofSelection_eq_ok {s : Selection} {d : Dialect} {settings : Settings} {t : Statement} :
    Statement.ofSelection s d settings = .ok t ↔ settings.validate d = .ok () ∧ s.Writable ∧
      ⟨String.ofList (s.text d settings.matching), s.parameters d settings.matching⟩ = t := by
  simp only [Statement.ofSelection, bind_eq_ok, pure_eq_ok, condition_eq_ok]
  constructor
  · rintro ⟨⟨⟩, hv, _, ⟨hw, rfl⟩, h⟩
    exact ⟨hv, hw, h⟩
  · rintro ⟨hv, hw, h⟩
    exact ⟨⟨⟩, hv, _, ⟨hw, rfl⟩, h⟩

end WorkbookQuery
