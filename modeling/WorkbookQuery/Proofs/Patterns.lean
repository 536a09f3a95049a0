/-
  What the tests of text ask of a text. A pattern is read by the rules of the driver that gets
  it (`Like.Rules.parts`) and matched part by part (`Like.Matches`). Escaping leaves no
  wildcards but those that are put at the ends, so a test holds of the texts that contain its
  constant, start with it or end with it, whatever characters the constant has
  (`text_tests_literal`).

  What a driver's function for upper case makes of a column is not modelled: the subject of a
  test is what the driver compares.
-/
import WorkbookQuery.Proofs.Tokens

namespace WorkbookQuery

/-! ## Patterns -/

namespace Like

/-- A part of a pattern. -/
inductive Part where
  /-- Any characters, or none. -/
  | run
  | one
  | digit
  | exactly (c : Char)
  deriving DecidableEq

/-- The texts that a part stands for. -/
def Part.Takes : Part → List Char → Prop
  | .run, _ => True
  | .one, s => ∃ c, s = [c]
  | .digit, s => ∃ c, s = [c] ∧ c.isDigit = true
  | .exactly c, s => s = [c]

/-- The text can be cut up so that each part takes its piece. -/
def Matches : List Part → List Char → Prop
  | [], s => s = []
  | p :: ps, s => ∃ taken rest, taken ++ rest = s ∧ p.Takes taken ∧ Matches ps rest

def jetPart (c : Char) : Part :=
  if c = '%' ∨ c = '*' then .run
  else if c = '_' ∨ c = '?' then .one
  else if c = '#' then .digit
  else .exactly c

/-- The rules of Jet and ACE: a single character in brackets stands for itself. -/
def jetParts : List Char → List Part
  | '[' :: c :: ']' :: p => .exactly c :: jetParts p
  | c :: p => jetPart c :: jetParts p
  | [] => []

def ansiPart (c : Char) : Part :=
  if c = '%' then .run
  else if c = '_' then .one
  else .exactly c

/-- The rules of the standard: the character behind an escape character stands for itself. No
character is one unless it has been declared. -/
def ansiParts (escape? : Option Char) : List Char → List Part
  | c :: d :: p =>
    if escape? = some c then .exactly d :: ansiParts escape? p
    else ansiPart c :: ansiParts escape? (d :: p)
  | [c] => [ansiPart c]
  | [] => []

inductive Rules where
  | jet
  | ansi
  deriving DecidableEq

/-- A pattern's parts, given the escape character that has been declared. -/
def Rules.parts : Rules → Option Char → List Char → List Part
  | .jet, _ => jetParts
  | .ansi, escape? => ansiParts escape?

theorem matches_append {ps qs : List Part} {s : List Char} :
    Matches (ps ++ qs) s ↔ ∃ a b, a ++ b = s ∧ Matches ps a ∧ Matches qs b := by
  induction ps generalizing s with
  | nil =>
    constructor
    · intro h
      exact ⟨[], s, rfl, rfl, h⟩
    · rintro ⟨_, b, rfl, rfl, h⟩
      exact h
  | cons p ps ih =>
    constructor
    · rintro ⟨taken, _, rfl, hp, h⟩
      obtain ⟨a, b, rfl, ha, hb⟩ := ih.mp h
      exact ⟨taken ++ a, b, List.append_assoc _ _ _, ⟨taken, a, rfl, hp, ha⟩, hb⟩
    · rintro ⟨_, b, rfl, ⟨taken, a, rfl, hp, ha⟩, hb⟩
      exact ⟨taken, a ++ b, (List.append_assoc _ _ _).symm, hp, ih.mpr ⟨a, b, rfl, ha, hb⟩⟩

/-- Without wildcards a pattern matches one text. -/
theorem matches_exactly {t s : List Char} : Matches (t.map .exactly) s ↔ s = t := by
  induction t generalizing s with
  | nil => exact Iff.rfl
  | cons c t ih =>
    constructor
    · rintro ⟨_, rest, rfl, rfl, h⟩
      rw [ih.mp h]
      rfl
    · rintro rfl
      exact ⟨[c], t, rfl, rfl, ih.mpr rfl⟩

theorem matches_run (s : List Char) : Matches [.run] s :=
  ⟨s, [], List.append_nil s, trivial, rfl⟩

end Like

namespace Anchor

open Like

/-- The text stands in the subject where the anchor says. -/
def Holds : Anchor → List Char → List Char → Prop
  | .anywhere, t, s => t <:+: s
  | .start, t, s => t <+: s
  | .ending, t, s => t <:+ s

/-- The parts of a pattern around those of its text. -/
def parts : Anchor → List Part → List Part
  | .anywhere, ps => .run :: (ps ++ [.run])
  | .start, ps => ps ++ [.run]
  | .ending, ps => .run :: ps

theorem matches_start {t s : List Char} :
    Matches (t.map .exactly ++ [.run]) s ↔ t <+: s := by
  rw [matches_append]
  constructor
  · rintro ⟨a, b, rfl, ha, -⟩
    rw [matches_exactly.mp ha]
    exact ⟨b, rfl⟩
  · rintro ⟨b, rfl⟩
    exact ⟨t, b, rfl, matches_exactly.mpr rfl, matches_run b⟩

theorem matches_parts (anchor : Anchor) (t s : List Char) :
    Matches (anchor.parts (t.map .exactly)) s ↔ anchor.Holds t s := by
  cases anchor with
  | anywhere =>
    constructor
    · rintro ⟨before, _, rfl, -, h⟩
      obtain ⟨after, rfl⟩ := matches_start.mp h
      exact ⟨before, after, List.append_assoc _ _ _⟩
    · rintro ⟨before, after, rfl⟩
      exact ⟨before, t ++ after, (List.append_assoc _ _ _).symm, trivial,
        matches_start.mpr ⟨after, rfl⟩⟩
  | start => exact matches_start
  | ending =>
    constructor
    · rintro ⟨before, rest, rfl, -, h⟩
      rw [matches_exactly.mp h]
      exact ⟨before, rfl⟩
    · rintro ⟨before, rfl⟩
      exact ⟨before, t, rfl, trivial, matches_exactly.mpr rfl⟩

end Anchor

/-! ## Escaping -/

namespace LikeEscape

open Like

/-- The escape character that the clause behind the placeholder declares. -/
def declared? : LikeEscape → Option Char
  | .brackets => none
  | .backslash => some '\\'

/-- The rules under which an escaped character stands for itself. -/
def rules : LikeEscape → Rules
  | .brackets => .jet
  | .backslash => .ansi

def parts (e : LikeEscape) : List Char → List Part := e.rules.parts e.declared?

theorem jetParts_cons {c : Char} (h : c ≠ '[') (p : List Char) :
    jetParts (c :: p) = jetPart c :: jetParts p := by
  rw [jetParts.eq_def]
  split
  · next heq => exact absurd (List.cons.inj heq).1 h
  · next heq =>
    obtain ⟨rfl, rfl⟩ := List.cons.inj heq
    rfl
  · next heq => cases heq

theorem ansiParts_cons {escape? : Option Char} {c : Char} (h : escape? ≠ some c)
    (p : List Char) : ansiParts escape? (c :: p) = ansiPart c :: ansiParts escape? p := by
  cases p with
  | nil => rfl
  | cons d p => rw [ansiParts, if_neg h]

theorem parts_escapeChar (e : LikeEscape) (c : Char) (p : List Char) :
    e.parts (e.escapeChar c ++ p) = .exactly c :: e.parts p := by
  cases e with
  | brackets =>
    rw [escapeChar]
    split
    · rfl
    · next h =>
      have hc : c ∉ ['%', '_', '[', '#', '*', '?'] := fun hc => h (List.contains_iff_mem.mpr hc)
      simp only [List.mem_cons, List.not_mem_nil, or_false, not_or] at hc
      have hpart : jetPart c = .exactly c := by simp [jetPart, hc]
      exact (jetParts_cons hc.2.2.1 p).trans (congrArg (· :: _) hpart)
  | backslash =>
    rw [escapeChar]
    split
    · rfl
    · next h =>
      have hc : c ∉ ['%', '_', '\\'] := fun hc => h (List.contains_iff_mem.mpr hc)
      simp only [List.mem_cons, List.not_mem_nil, or_false, not_or] at hc
      have hpart : ansiPart c = .exactly c := by simp [ansiPart, hc]
      have hdeclared : some '\\' ≠ some c := fun h => hc.2.2 (Option.some.inj h).symm
      exact (ansiParts_cons hdeclared p).trans (congrArg (· :: _) hpart)

/-- By induction on the text, with any pattern behind it. -/
theorem parts_escape_append (e : LikeEscape) (t p : List Char) :
    e.parts (e.escape t ++ p) = t.map .exactly ++ e.parts p := by
  induction t with
  | nil => rfl
  | cons c t ih =>
    rw [escape, List.flatMap_cons, List.append_assoc, parts_escapeChar]
    exact congrArg (Part.exactly c :: ·) ih

theorem parts_run (e : LikeEscape) (p : List Char) : e.parts ('%' :: p) = .run :: e.parts p := by
  cases e with
  | brackets => exact jetParts_cons (by decide) p
  | backslash => exact ansiParts_cons (by decide) p

theorem parts_pattern (e : LikeEscape) (anchor : Anchor) (t : List Char) :
    e.parts (anchor.pattern (e.escape t)) = anchor.parts (t.map .exactly) := by
  have hclosed : e.parts (e.escape t) = t.map .exactly := by
    rw [← List.append_nil (e.escape t), parts_escape_append]
    cases e <;> exact List.append_nil _
  have hopen : e.parts (e.escape t ++ ['%']) = t.map .exactly ++ [.run] := by
    rw [parts_escape_append, parts_run]
    cases e <;> rfl
  cases anchor with
  | anywhere => exact (e.parts_run _).trans (congrArg (Part.run :: ·) hopen)
  | start => exact hopen
  | ending => exact (e.parts_run _).trans (congrArg (Part.run :: ·) hclosed)

/-- The pattern of a text matches what has the text where the anchor says. -/
theorem matches_pattern (e : LikeEscape) (anchor : Anchor) (t s : List Char) :
    Matches (e.parts (anchor.pattern (e.escape t))) s ↔ anchor.Holds t s := by
  rw [parts_pattern, anchor.matches_parts]

end LikeEscape

/-! ## Tests as they are written -/

/-- The drivers for workbook files follow Jet and ACE. -/
def Dialect.likeRules (d : Dialect) : Like.Rules := if d.name = ansi.name then .ansi else .jet

theorem Dialect.likeRules_eq {d : Dialect} (hd : d ∈ profiles) :
    d.likeRules = d.likeEscape.rules := by
  revert d
  decide

/-- A test of a column's text against a placeholder. -/
inductive TextTest where
  /-- A pattern, matched with the column or with its upper case. -/
  | like (upper : Bool) (escape? : Option Char)
  /-- So many characters at the start of the column are the constant. -/
  | left (length : Nat)
  /-- So many characters at its end are. -/
  | right (length : Nat)
  deriving DecidableEq

namespace TextTest

def escapeClause : Option Char → List Char
  | none => []
  | some c => " ESCAPE '".toList ++ [c, '\'']

/-- Equality, case included, of the column's characters at one end and the constant. -/
def compared (d : Dialect) (column function : String) (length : Nat) : List Char :=
  "STRCOMP(".toList ++ function.toList ++ "(".toList ++ d.quote column ++
    (", " ++ toString length ++ "), ").toList ++ ['?'] ++ ", 0) = 0".toList

/-- The test in the words of a statement. -/
def written (d : Dialect) (column : String) : TextTest → List Char
  | .like false escape? => d.quote column ++ " LIKE ".toList ++ ['?'] ++ escapeClause escape?
  | .like true escape? =>
    d.upperFunction.toList ++ "(".toList ++ d.quote column ++ ")".toList ++ " LIKE ".toList ++
      ['?'] ++ escapeClause escape?
  | .left length => compared d column "LEFT" length
  | .right length => compared d column "RIGHT" length

/-- A test of a subject, when a value is bound to its placeholder. A subject with fewer
characters than are asked for is taken whole. -/
def Holds (d : Dialect) (value subject : List Char) : TextTest → Prop
  | .like _ escape? => Like.Matches (d.likeRules.parts escape? value) subject
  | .left length => subject.take length = value
  | .right length => subject.drop (subject.length - length) = value

end TextTest

/-- The text that is looked for. Without case the subject is in upper case, and so is the text. -/
def TextMatching.sought : TextMatching → String → String
  | .caseInsensitive, t => Text.upper t
  | .caseSensitive, t | .driverDefault, t => t

namespace Style

variable {style : Style}

theorem escapeClause_declared (e : LikeEscape) :
    TextTest.escapeClause e.declared? = e.clause.toList := by
  cases e <;> decide

theorem holds_pattern (hd : style.dialect ∈ Dialect.profiles) (upper : Bool) (anchor : Anchor)
    (t s : List Char) :
    (TextTest.like upper style.dialect.likeEscape.declared?).Holds style.dialect
      (anchor.pattern (style.dialect.likeEscape.escape t)) s ↔ anchor.Holds t s := by
  rw [TextTest.Holds, Dialect.likeRules_eq hd]
  exact style.dialect.likeEscape.matches_pattern anchor t s

/-- What is written for a text test is a test, and with the value that is bound it asks for the
text where the anchor says. -/
theorem exists_test (hd : style.dialect ∈ Dialect.profiles) {anchor : Anchor}
    (hanchor : style.matching = .caseSensitive → anchor ≠ .anywhere) (column text : String) :
    ∃ test : TextTest,
      style.testText column text.length anchor = test.written style.dialect column ∧
        ∀ s, test.Holds style.dialect (style.testValue text anchor).toList s ↔
          anchor.Holds (style.matching.sought text).toList s := by
  unfold testText testValue TextMatching.sought
  cases hm : style.matching with
  | driverDefault =>
    refine ⟨.like false style.dialect.likeEscape.declared?, ?_, fun s => ?_⟩
    · rw [TextTest.written, escapeClause_declared]
    · dsimp only
      rw [String.toList_ofList]
      exact holds_pattern hd false anchor text.toList s
  | caseInsensitive =>
    refine ⟨.like true style.dialect.likeEscape.declared?, ?_, fun s => ?_⟩
    · rw [TextTest.written, escapeClause_declared]
    · dsimp only
      rw [String.toList_ofList]
      exact holds_pattern hd true anchor (Text.upper text).toList s
  | caseSensitive =>
    cases anchor with
    | anywhere => exact absurd rfl (hanchor hm)
    | start =>
      refine ⟨.left text.length, rfl, fun s => ?_⟩
      rw [TextTest.Holds, Anchor.Holds, List.prefix_iff_eq_take, String.length_toList]
      exact eq_comm
    | ending =>
      refine ⟨.right text.length, rfl, fun s => ?_⟩
      rw [TextTest.Holds, Anchor.Holds, List.suffix_iff_eq_drop, String.length_toList]
      exact eq_comm

end Style

/-! ## Tests within a condition -/

theorem infix_second (a x b c : List Char) : x <:+: a ++ x ++ b ++ c := by
  rw [List.append_assoc]
  exact List.infix_append _ _ _

/-- The condition that tests a column for a text. -/
def Anchor.test : Anchor → String → BoundLiteral → Filter
  | .anywhere => .contains
  | .start => .startsWith
  | .ending => .endsWith

namespace Filter

/-- A condition is part of another. -/
inductive Within (g : Filter) : Filter → Prop where
  | whole : Within g g
  | andLeft {left right : Filter} : Within g left → Within g (.and left right)
  | andRight {left right : Filter} : Within g right → Within g (.and left right)
  | orLeft {left right : Filter} : Within g left → Within g (.or left right)
  | orRight {left right : Filter} : Within g right → Within g (.or left right)
  | not {inner : Filter} : Within g inner → Within g (.not inner)

variable {f g : Filter}

theorem TestsText.within (hf : f.TestsText) (h : g.Within f) : g.TestsText := by
  induction h with
  | whole => exact hf
  | andLeft _ ih | orLeft _ ih => exact ih hf.1
  | andRight _ ih | orRight _ ih => exact ih hf.2
  | not _ ih => exact ih hf

/-- The text of a part stands in the text of the whole. -/
theorem Within.text_infix (h : g.Within f) (style : Style) :
    style.filterText g <:+: style.filterText f := by
  induction h with
  | whole => exact List.infix_rfl
  | andLeft _ ih | orLeft _ ih =>
    exact (ih.trans (infix_second _ _ _ _)).trans (List.prefix_append _ _).isInfix
  | andRight _ ih | orRight _ ih | not _ ih => exact ih.trans ⟨_, _, rfl⟩

/-- The constants of a part are numbered from where those before it end, and what is bound for
them stands there. -/
theorem Within.parameters_eq (h : g.Within f) (style : Style) {n : Nat} (hn : f.Numbered n) :
    ∃ before after, g.Numbered (n + before.length) ∧
      style.filterParameters f = before ++ style.filterParameters g ++ after := by
  induction h generalizing n with
  | whole => exact ⟨[], [], hn, (List.append_nil _).symm⟩
  | @andLeft left right _ ih | @orLeft left right _ ih =>
    obtain ⟨before, after, hg, heq⟩ := ih (numbered_append.mp hn).1
    refine ⟨before, after ++ style.filterParameters right, hg, ?_⟩
    rw [Style.filterParameters, heq, List.append_assoc]
  | @andRight left right _ ih | @orRight left right _ ih =>
    obtain ⟨before, after, hg, heq⟩ := ih (numbered_append.mp hn).2
    refine ⟨style.filterParameters left ++ before, after, ?_, ?_⟩
    · rw [List.length_append, Style.length_filterParameters, ← Nat.add_assoc]
      exact hg
    · rw [Style.filterParameters, heq, List.append_assoc, List.append_assoc, List.append_assoc]
  | not _ ih => exact ih hn

end Filter

namespace Anchor

variable {style : Style} {anchor : Anchor} {column : String} {l : BoundLiteral}

theorem numbered_test {n : Nat} : (anchor.test column l).Numbered n ↔ l.position = n := by
  cases anchor <;> exact Filter.numbered_singleton

theorem testsText_test : (anchor.test column l).TestsText ↔ ∃ text, l.value = .text text := by
  cases anchor <;> exact Iff.rfl

theorem filterText_test :
    style.filterText (anchor.test column l) =
      style.testText column l.value.render.length anchor := by
  cases anchor <;> rfl

theorem filterParameters_test :
    style.filterParameters (anchor.test column l) = [style.testParameter l anchor] := by
  cases anchor <;> rfl

/-- What is bound for a text test within a condition stands at the number of its constant. -/
theorem parameter_of_within {f : Filter} (h : (anchor.test column l).Within f)
    (hn : f.Numbered 0) (style : Style) :
    (style.filterParameters f)[l.position]? = some (style.testParameter l anchor) := by
  obtain ⟨before, after, hg, heq⟩ := h.parameters_eq style hn
  have hposition : l.position = before.length := (numbered_test.mp hg).trans (Nat.zero_add _)
  rw [heq, filterParameters_test, hposition, List.append_assoc,
    List.getElem?_append_right (Nat.le_refl _), Nat.sub_self]
  rfl

end Anchor

/-- The condition stands in the text of the statement. -/
theorem Selection.condition_infix {sel : Selection} {f : Filter} (hf : f ∈ sel.filter)
    (d : Dialect) (matching : TextMatching) :
    Style.filterText ⟨d, matching⟩ f <:+: sel.text d matching := by
  have hcondition : Style.conditionText ⟨d, matching⟩ sel.filter =
      " WHERE ".toList ++ Style.filterText ⟨d, matching⟩ f :=
    congrArg (Style.conditionText ⟨d, matching⟩) hf
  have hwithin : Style.filterText ⟨d, matching⟩ f <:+:
      Style.conditionText ⟨d, matching⟩ sel.filter := by
    rw [hcondition]
    exact (List.suffix_append _ _).isInfix
  exact hwithin.trans (infix_second _ _ _ _)

/-- A selection whose constants are numbered and whose text tests have texts is written in every
dialect that admits the settings. Wherever its condition tests a column for a text, the statement
has a test there and a value bound for its placeholder, and they hold of exactly the subjects
that have the text where the anchor says. -/
theorem text_tests_literal {sel : Selection} {d : Dialect} {settings : Settings}
    (hd : d ∈ Dialect.profiles) (hv : settings.validate d = .ok ()) (hw : sel.Writable) :
    ∃ statement, Statement.ofSelection sel d settings = .ok statement ∧
      ∀ f ∈ sel.filter, ∀ (anchor : Anchor) (column : String) (l : BoundLiteral),
        (anchor.test column l).Within f →
        (settings.matching = .caseSensitive → anchor ≠ .anywhere) →
        ∃ (text value : String) (test : TextTest), l.value = .text text ∧
          Style.filter ⟨d, settings.matching⟩ (anchor.test column l) l.position =
            .ok ⟨test.written d column, [⟨.text value, l.type⟩]⟩ ∧
          test.written d column <:+: statement.text.toList ∧
          statement.parameters[l.position]? = some ⟨.text value, l.type⟩ ∧
          ∀ s, test.Holds d value.toList s ↔
            anchor.Holds (settings.matching.sought text).toList s := by
  refine ⟨_, ofSelection_eq_ok.mpr ⟨hv, hw, rfl⟩, ?_⟩
  intro f hf anchor column l hwithin hanchor
  obtain ⟨hn, htexts⟩ := hw f hf
  let style : Style := ⟨d, settings.matching⟩
  have hprofile : style.dialect ∈ Dialect.profiles := hd
  obtain ⟨text, htext⟩ := Anchor.testsText_test.mp (htexts.within hwithin)
  obtain ⟨test, hwritten, hholds⟩ := Style.exists_test hprofile hanchor column text
  have hparameter : style.testParameter l anchor =
      ⟨.text (style.testValue text anchor), l.type⟩ := by
    rw [Style.testParameter, htext]
    rfl
  have hfilterText : style.filterText (anchor.test column l) = test.written d column := by
    rw [Anchor.filterText_test, htext]
    exact hwritten
  refine ⟨text, style.testValue text anchor, test, htext, ?_, ?_, ?_, hholds⟩
  · refine Style.filter_eq_ok.mpr ⟨Anchor.numbered_test.mpr rfl,
      Anchor.testsText_test.mpr ⟨text, htext⟩, ?_⟩
    rw [hfilterText, Anchor.filterParameters_test, hparameter]
  · rw [← hfilterText, String.toList_ofList]
    exact (hwithin.text_infix style).trans (Selection.condition_infix hf d settings.matching)
  · rw [← hparameter]
    have hparameters : sel.parameters d settings.matching = style.filterParameters f := by
      have hf : sel.filter = some f := hf
      rw [Selection.parameters, hf, Style.conditionParameters]
    dsimp only
    rw [hparameters]
    exact Anchor.parameter_of_within hwithin hn style

/-- A text of wildcards behind an empty one, without case. -/
theorem text_tests_literal_wildcards :
    let d := Dialect.ofFormat .excel2007
    let settings : Settings := { matching := .caseInsensitive }
    let l : BoundLiteral := ⟨.text "5%_[ß]\\", .text, 1⟩
    let f : Filter := .or (.startsWith "B" ⟨.text "", .text, 0⟩) (.not (.contains "A]" l))
    let sel : Selection := { worksheet := "S", filter := some f }
    let statement : Statement :=
      { text := "SELECT * FROM [S$] WHERE (UCASE([B]) LIKE ? OR (NOT UCASE([A]]]) LIKE ?))"
        parameters := [⟨.text "%", .text⟩, ⟨.text "%5[%][_][[]SS]\\%", .text⟩] }
    settings.validate d = .ok () ∧ sel.Writable ∧
      Statement.ofSelection sel d settings = .ok statement ∧
      ∃ test : TextTest, test.written d "A]" = "UCASE([A]]]) LIKE ?".toList ∧
        ∀ s, test.Holds d "%5[%][_][[]SS]\\%".toList s ↔ "5%_[SS]\\".toList <:+: s := by
  intro d settings l f sel statement
  have hv : settings.validate d = .ok () := rfl
  have hs : Statement.ofSelection sel d settings = .ok statement :=
    eq_ok_of_toOption (by decide +kernel)
  have hw : sel.Writable := (ofSelection_eq_ok.mp hs).2.1
  obtain ⟨statement', hs', htests⟩ := text_tests_literal (by decide : d ∈ _) hv hw
  cases hs.symm.trans hs'
  obtain ⟨text, value, test, htext, hfilter, -, hparameter, hholds⟩ :=
    htests f rfl .anywhere "A]" l (.orRight (.not .whole)) nofun
  cases htext
  have hvalue : "%5[%][_][[]SS]\\%" = value :=
    Value.text.inj (congrArg Literal.value (Option.some.inj hparameter))
  have hleaf : Style.filter ⟨d, .caseInsensitive⟩ (.contains "A]" l) 1 =
      .ok ⟨"UCASE([A]]]) LIKE ?".toList, [⟨.text "%5[%][_][[]SS]\\%", .text⟩]⟩ :=
    eq_ok_of_toOption (by decide +kernel)
  have hwritten := congrArg Clause.text (Except.ok.inj (hfilter.symm.trans hleaf))
  have hupper : Text.upper "5%_[ß]\\" = "5%_[SS]\\" := by decide +kernel
  refine ⟨hv, hw, hs, test, hwritten, fun s => ?_⟩
  rw [hvalue, ← hupper]
  exact hholds s

end WorkbookQuery
