/-
  Which selections are written, and what is bound for their constants. A selection is written
  when the settings suit the dialect, its constants are numbered in the order in which they stand
  and its text tests have texts to look for, however it was put together. Any other selection is
  refused, for the settings if these do not suit and for the selection otherwise
  (`written_or_refused`).

  What is bound for a constant depends on what the constant is for, so the constants of a
  condition are listed here together with their uses.
-/
import WorkbookQuery.Proofs.Writing

namespace WorkbookQuery

/-! ## Uses of constants -/

/-- A constant of a condition, and the end of the text that it is looked for at when it belongs
to a text test. -/
structure LiteralUse where
  literal : BoundLiteral
  anchor? : Option Anchor
  deriving DecidableEq

namespace Filter

/-- The constants from left to right, with what they are for. -/
def uses : Filter → List LiteralUse
  | .comparison _ _ (.literal l) => [⟨l, none⟩]
  | .comparison _ _ (.column _) => []
  | .and left right | .or left right => left.uses ++ right.uses
  | .not inner => inner.uses
  | .contains _ l => [⟨l, some .anywhere⟩]
  | .startsWith _ l => [⟨l, some .start⟩]
  | .endsWith _ l => [⟨l, some .ending⟩]
  | .isNull _ | .isNotNull _ => []

theorem map_literal_uses (f : Filter) : f.uses.map LiteralUse.literal = f.literals := by
  induction f with
  | comparison column op operand => cases operand <;> rfl
  | and left right ihl ihr | or left right ihl ihr =>
    rw [uses, literals, List.map_append, ihl, ihr]
  | not inner ih => exact ih
  | contains column l | startsWith column l | endsWith column l => rfl
  | isNull column | isNotNull column => rfl

end Filter

/-- A constant to look for is a text. -/
def LiteralUse.HasText (u : LiteralUse) : Prop :=
  u.anchor?.isSome → ∃ text, u.literal.value = .text text

theorem Filter.testsText_iff (f : Filter) : f.TestsText ↔ ∀ u ∈ f.uses, u.HasText := by
  induction f with
  | comparison column op operand =>
    cases operand <;> simp [TestsText, uses, LiteralUse.HasText]
  | and left right ihl ihr | or left right ihl ihr =>
    rw [TestsText, ihl, ihr, uses, List.forall_mem_append]
  | not inner ih => exact ih
  | contains column l | startsWith column l | endsWith column l =>
    simp [TestsText, uses, LiteralUse.HasText]
  | isNull column | isNotNull column => simp [TestsText, uses]

/-- Numbers in order are those of the places. -/
theorem positions_eq_range_iff {ls : List BoundLiteral} :
    ls.map BoundLiteral.position = List.range' 0 ls.length ↔
      ∀ (i : Nat) (l : BoundLiteral), ls[i]? = some l → l.position = i := by
  constructor
  · intro h i l hl
    have hi : (ls.map BoundLiteral.position)[i]? = some l.position := by
      rw [List.getElem?_map, hl]
      rfl
    rw [h] at hi
    obtain ⟨hlength, heq⟩ := List.getElem?_eq_some_iff.mp hi
    rw [← heq, List.getElem_range']
    omega
  · intro h
    apply List.ext_getElem
    · rw [List.length_map, List.length_range']
    · intro i hi _
      rw [List.length_map] at hi
      rw [List.getElem_map, List.getElem_range', h i ls[i] (List.getElem?_eq_getElem hi)]
      omega

namespace Selection

def uses (s : Selection) : List LiteralUse := (s.filter.map Filter.uses).getD []

theorem map_literal_uses (s : Selection) : s.uses.map LiteralUse.literal = s.literals := by
  unfold uses literals
  cases s.filter with
  | none => rfl
  | some f => exact f.map_literal_uses

/-- The number of each constant is its place, and what is looked for is text. -/
structure Bindable (s : Selection) : Prop where
  position : ∀ (i : Nat) (l : BoundLiteral), s.literals[i]? = some l → l.position = i
  text : ∀ u ∈ s.uses, u.HasText

theorem writable_iff (s : Selection) : s.Writable ↔ s.Bindable := by
  have hparts : s.Bindable ↔
      (∀ (i : Nat) (l : BoundLiteral), s.literals[i]? = some l → l.position = i) ∧
        ∀ u ∈ s.uses, u.HasText :=
    ⟨fun h => ⟨h.position, h.text⟩, fun h => ⟨h.1, h.2⟩⟩
  rw [hparts, Writable, literals, uses]
  cases s.filter with
  | none => simp
  | some f =>
    simp only [Option.mem_some_iff, forall_eq', Option.map_some, Option.getD_some]
    rw [Filter.Numbered, positions_eq_range_iff, Filter.testsText_iff]

end Selection

/-! ## What is bound -/

/-- An escaped text between the wildcards of a text test. -/
def Anchor.wrapped : Anchor → String → String
  | .anywhere, s => "%" ++ s ++ "%"
  | .start, s => s ++ "%"
  | .ending, s => "%" ++ s

theorem Anchor.ofList_pattern (anchor : Anchor) (cs : List Char) :
    String.ofList (anchor.pattern cs) = anchor.wrapped (String.ofList cs) := by
  have hwild : String.ofList ['%'] = "%" := rfl
  cases anchor with
  | anywhere =>
    have hcs : anywhere.pattern cs = ['%'] ++ cs ++ ['%'] := rfl
    rw [hcs, String.ofList_append, String.ofList_append, hwild]
    rfl
  | start =>
    rw [pattern, String.ofList_append, hwild]
    rfl
  | ending =>
    have hcs : ending.pattern cs = ['%'] ++ cs := rfl
    rw [hcs, String.ofList_append, hwild]
    rfl

namespace LiteralUse

/-- The pattern for a text: the text with the dialect's wildcards made literal, between the
wildcards of the test. -/
def pattern (e : LikeEscape) (anchor : Anchor) (text : String) : Value :=
  .text (anchor.wrapped (String.ofList (e.escape text.toList)))

/-- What is bound for a constant. Its own value, but for a text test that is written as a
comparison with a pattern. -/
def bound (matching : TextMatching) (e : LikeEscape) (u : LiteralUse) : Value :=
  match u.anchor?, matching with
  | none, _ | some _, .caseSensitive => u.literal.value
  | some anchor, .driverDefault => pattern e anchor u.literal.value.render
  | some anchor, .caseInsensitive => pattern e anchor (Text.upper u.literal.value.render)

/-- The parameter of a constant keeps the type that the constant was declared with. -/
def parameter (matching : TextMatching) (e : LikeEscape) (u : LiteralUse) : Literal :=
  ⟨u.bound matching e, u.literal.type⟩

end LiteralUse

theorem Style.testParameter_eq (style : Style) {l : BoundLiteral} {anchor : Anchor}
    (hl : ∃ text, l.value = .text text) : style.testParameter l anchor =
      LiteralUse.parameter style.matching style.dialect.likeEscape ⟨l, some anchor⟩ := by
  obtain ⟨text, htext⟩ := hl
  unfold testParameter testValue LiteralUse.parameter LiteralUse.bound
  cases style.matching with
  | driverDefault | caseInsensitive =>
    dsimp only
    rw [Anchor.ofList_pattern]
    rfl
  | caseSensitive =>
    dsimp only
    rw [htext]
    rfl

/-- The parameters of a condition are those of its constants, by induction on the condition. -/
theorem Style.filterParameters_eq (style : Style) {f : Filter} (hf : f.TestsText) :
    style.filterParameters f =
      f.uses.map (LiteralUse.parameter style.matching style.dialect.likeEscape) := by
  induction f with
  | comparison column op operand => cases operand <;> rfl
  | and left right ihl ihr | or left right ihl ihr =>
    rw [filterParameters, Filter.uses, List.map_append, ihl hf.1, ihr hf.2]
  | not inner ih => exact ih hf
  | contains column l | startsWith column l | endsWith column l =>
    rw [filterParameters, style.testParameter_eq hf]
    rfl
  | isNull column | isNotNull column => rfl

theorem Selection.parameters_eq {s : Selection} (hs : s.Writable) (d : Dialect)
    (matching : TextMatching) : s.parameters d matching =
      s.uses.map (LiteralUse.parameter matching d.likeEscape) := by
  unfold parameters uses
  cases hf : s.filter with
  | none => rfl
  | some f => exact Style.filterParameters_eq ⟨d, matching⟩ (hs f hf).2

/-! ## What is refused -/

/-- A step that fails blames the selection. -/
def BlamesModel {α : Type} (x : Except Fault α) : Prop :=
  ∀ e, x = .error e → ∃ reason, e = .invalidModel reason

theorem blamesModel_ok {α : Type} (a : α) : BlamesModel (.ok a) := by
  intro e h
  cases h

theorem BlamesModel.bind {α β : Type} {x : Except Fault α} {f : α → Except Fault β}
    (hx : BlamesModel x) (hf : ∀ a, BlamesModel (f a)) : BlamesModel (x >>= f) := by
  intro e h
  rcases bind_eq_error.mp h with h | ⟨a, -, h⟩
  · exact hx e h
  · exact hf a e h

theorem BlamesModel.map {α β : Type} {x : Except Fault α} (hx : BlamesModel x) (f : α → β) :
    BlamesModel (x >>= fun a => pure (f a)) :=
  hx.bind fun a => blamesModel_ok (f a)

theorem Clause.blamesModel_placeholder (l : BoundLiteral) (v : Value) (n : Nat) :
    BlamesModel (placeholder l v n) := by
  intro e h
  rw [placeholder] at h
  split at h
  · cases h
  · cases h
    exact ⟨_, rfl⟩

namespace Style

variable (style : Style)

theorem blamesModel_textTest (column : String) (l : BoundLiteral) (anchor : Anchor) (n : Nat) :
    BlamesModel (style.textTest column l anchor n) := by
  unfold textTest
  split
  · split
    all_goals exact (Clause.blamesModel_placeholder l _ n).map _
  · intro e h
    cases h
    exact ⟨_, rfl⟩

theorem blamesModel_filter (f : Filter) (n : Nat) : BlamesModel (style.filter f n) := by
  induction f generalizing n with
  | comparison column op operand =>
    cases operand with
    | literal l => exact (Clause.blamesModel_placeholder l l.value n).map _
    | column other => exact blamesModel_ok _
  | and left right ihl ihr | or left right ihl ihr =>
    exact (ihl n).bind fun l => (ihr (n + l.parameters.length)).map _
  | not inner ih => exact (ih n).map _
  | contains column l => exact style.blamesModel_textTest column l .anywhere n
  | startsWith column l => exact style.blamesModel_textTest column l .start n
  | endsWith column l => exact style.blamesModel_textTest column l .ending n
  | isNull column | isNotNull column => exact blamesModel_ok _

theorem blamesModel_condition (f : Option Filter) : BlamesModel (Statement.condition style f) := by
  cases f with
  | none => exact blamesModel_ok _
  | some f => exact (style.blamesModel_filter f 0).map _

end Style

/-- Settings that do not suit the dialect are refused before anything is written. -/
theorem ofSelection_of_validate_error {s : Selection} {d : Dialect} {settings : Settings}
    {e : Fault} (h : settings.validate d = .error e) :
    (∃ reason, e = .configuration reason) ∧ Statement.ofSelection s d settings = .error e := by
  constructor
  · rw [Settings.validate] at h
    split at h
    · cases h
    · cases h
      exact ⟨_, rfl⟩
  · exact bind_eq_error.mpr (.inl h)

theorem blamesModel_ofSelection {s : Selection} {d : Dialect} {settings : Settings}
    (h : settings.validate d = .ok ()) : BlamesModel (Statement.ofSelection s d settings) := by
  rw [Statement.ofSelection, h, ok_bind]
  exact (Style.blamesModel_condition _ s.filter).map _

/-! ## Selections -/

/-- Every selection, compiled or put together by hand, in every dialect and under all settings.
It is written exactly when the settings suit the dialect, the number of each of its constants is
the place of the constant, and what its text tests look for is text. Otherwise it is refused for
the settings, when they do not suit, and for itself when they do. The parameters of its statement
are those of its constants, one for each, in the same order. -/
theorem written_or_refused (s : Selection) (d : Dialect) (settings : Settings) :
    ((∃ t, Statement.ofSelection s d settings = .ok t) ↔
      settings.validate d = .ok () ∧ s.Bindable) ∧
    (∀ e, settings.validate d = .error e →
      (∃ reason, e = .configuration reason) ∧ Statement.ofSelection s d settings = .error e) ∧
    (settings.validate d = .ok () → ¬ s.Bindable →
      ∃ reason, Statement.ofSelection s d settings = .error (.invalidModel reason)) ∧
    s.uses.map LiteralUse.literal = s.literals ∧
    ∀ t, Statement.ofSelection s d settings = .ok t →
      t.parameters = s.uses.map (LiteralUse.parameter settings.matching d.likeEscape) := by
  refine ⟨?_, fun e => ofSelection_of_validate_error, ?_, s.map_literal_uses, ?_⟩
  · rw [← s.writable_iff]
    constructor
    · rintro ⟨t, h⟩
      obtain ⟨hvalidate, hwritable, -⟩ := ofSelection_eq_ok.mp h
      exact ⟨hvalidate, hwritable⟩
    · rintro ⟨hvalidate, hwritable⟩
      exact ⟨_, ofSelection_eq_ok.mpr ⟨hvalidate, hwritable, rfl⟩⟩
  · intro hvalidate hnot
    cases h : Statement.ofSelection s d settings with
    | ok t =>
      obtain ⟨-, hwritable, -⟩ := ofSelection_eq_ok.mp h
      exact absurd (s.writable_iff.mp hwritable) hnot
    | error e =>
      obtain ⟨reason, rfl⟩ := blamesModel_ofSelection hvalidate e h
      exact ⟨reason, rfl⟩
  · intro t h
    obtain ⟨-, hwritable, rfl⟩ := ofSelection_eq_ok.mp h
    exact Selection.parameters_eq hwritable d settings.matching

/-- Wildcards to escape, a letter with a longer upper case, constants declared with a type that is
not theirs; then a dialect that cannot tell upper from lower case, and a constant with a wrong
number. -/
theorem written_or_refused_mixed :
    let below : Filter := .comparison "b" .lt (.literal ⟨.integer 3, .float, 1⟩)
    let s : Selection :=
      { worksheet := "S"
        filter := some (.and (.startsWith "a" ⟨.text "5%_", .text, 0⟩)
          (.or (.not below) (.contains "c" ⟨.text "ß", .integer, 2⟩))) }
    let shifted : Selection := { worksheet := "S", filter := some (.or (.isNull "a") below) }
    let folding : Settings := { matching := .caseInsensitive }
    let strict : Settings := { matching := .caseSensitive }
    (∃ t, Statement.ofSelection s .ansi folding = .ok t ∧ t.parameters =
        [⟨.text "5\\%\\_%", .text⟩, ⟨.integer 3, .float⟩, ⟨.text "%SS%", .integer⟩]) ∧
      (∃ reason, Statement.ofSelection s .ansi strict = .error (.configuration reason)) ∧
      ∃ reason, Statement.ofSelection shifted .ansi folding = .error (.invalidModel reason) := by
  intro below s shifted folding strict
  have hs : s.Bindable := by
    refine ⟨positions_eq_range_iff.mp (by decide), ?_⟩
    simp [s, below, Selection.uses, Filter.uses, LiteralUse.HasText]
  have hshifted : ¬ shifted.Bindable := by
    intro h
    exact absurd (h.position 0 ⟨.integer 3, .float, 1⟩ rfl) (by decide)
  obtain ⟨hwritten, -, -, -, hparameters⟩ := written_or_refused s .ansi folding
  obtain ⟨-, hrefused, -⟩ := written_or_refused s .ansi strict
  obtain ⟨-, -, hmodel, -⟩ := written_or_refused shifted .ansi folding
  obtain ⟨t, ht⟩ := hwritten.mpr ⟨rfl, hs⟩
  obtain ⟨⟨reason, hreason⟩, hstrict⟩ := hrefused _ rfl
  rw [hreason] at hstrict
  exact ⟨⟨t, ht, (hparameters t ht).trans (by decide +kernel)⟩, ⟨reason, hstrict⟩,
    hmodel rfl hshifted⟩

end WorkbookQuery
