/-
  Reading text token by token. A text may be cut where a neutral character stands on either
  side of the cut, and its parts be read one by one (`scan_append_of_head`,
  `scan_append_of_last`); a quoted name is one token whatever is in it (`scan_quote`); and the
  placeholders of a text are the `?` among its tokens, of every text that can be read
  (`scanners_agree`).
-/
import WorkbookQuery.Proofs.Outcome
import WorkbookQuery.Statement.Placeholder
import WorkbookQuery.Statement.Token

namespace WorkbookQuery

namespace Token

/-- The character belongs to no word and neither opens nor closes a quotation. -/
def isNeutral (c : Char) : Bool := !isWordChar c && !(['[', ']', '"', '\''].contains c)

theorem isWordChar_of_isNeutral {c : Char} (h : isNeutral c = true) : isWordChar c = false := by
  simp only [isNeutral, Bool.and_eq_true, Bool.not_eq_true'] at h
  exact h.1

theorem ne_of_isNeutral {c d : Char} (h : isNeutral c = true)
    (hd : ['[', ']', '"', '\''].contains d = true) : c ≠ d := by
  rintro rfl
  simp only [isNeutral, hd, Bool.not_true, Bool.and_false] at h
  cases h

/-- A neutral character does not close a name. -/
theorem ne_close_of_isNeutral {c close : Char} (h : isNeutral c = true)
    (hclose : close = ']' ∨ close = '"') : c ≠ close := by
  rcases hclose with rfl | rfl
  · exact ne_of_isNeutral h rfl
  · exact ne_of_isNeutral h rfl

namespace Mode

/-- No quotation is open. -/
def isSettled : Mode → Bool
  | quoted _ _ | literal => false
  | _ => true

/-- The token that is finished when nothing more belongs to it. -/
def pending : Mode → List Token
  | between | quoted _ _ | literal => []
  | word w => [.word (String.ofList w.reverse)]
  | quotedEnd _ name => [.quoted (String.ofList name.reverse)]
  | literalEnd => [.symbol '\'']

/-- The names that are being read stand in brackets or double quotes. -/
def Usual : Mode → Prop
  | quoted close _ | quotedEnd close _ => close = ']' ∨ close = '"'
  | _ => True

theorem finish_eq_ok {m : Mode} {ts : List Token} :
    m.finish = .ok ts ↔ m.isSettled = true ∧ m.pending = ts := by
  cases m <;> simp [finish, isSettled, pending]

theorem scan_cons_eq_ok {m : Mode} {c : Char} {s : List Char} {ts : List Token} :
    m.scan (c :: s) = .ok ts ↔
      ∃ us, (m.next c).2.scan s = .ok us ∧ (m.next c).1 ++ us = ts := by
  simp only [scan, bind_eq_ok, pure_eq_ok]

theorem usual_start (c : Char) : (start c).2.Usual := by
  unfold start
  repeat' split
  all_goals simp [Usual]

theorem usual_next {m : Mode} (h : m.Usual) (c : Char) : (m.next c).2.Usual := by
  cases m with
  | between => exact usual_start c
  | word w =>
    simp only [next]
    split
    · trivial
    · exact usual_start c
  | quoted close name =>
    simp only [next]
    split <;> exact h
  | quotedEnd close name =>
    simp only [next]
    split
    · exact h
    · exact usual_start c
  | literal =>
    simp only [next]
    split <;> trivial
  | literalEnd =>
    simp only [next]
    split
    · trivial
    · exact usual_start c

/-! ## Cutting a text -/

theorem start_of_isNeutral {c : Char} (h : isNeutral c = true) : (start c).2 = between := by
  have hw := isWordChar_of_isNeutral h
  have h1 : c ≠ '[' := ne_of_isNeutral h rfl
  have h2 : c ≠ '"' := ne_of_isNeutral h rfl
  have h3 : c ≠ '\'' := ne_of_isNeutral h rfl
  by_cases hb : Text.isBlank c = true
  · rw [start, if_pos hb]
  · rw [start, if_neg hb, if_neg h1, if_neg h2, if_neg h3, if_neg (by simp [hw])]

/-- A neutral character finishes what was read before it. -/
theorem next_of_isNeutral {m : Mode} {c : Char} (hm : m.Usual) (hs : m.isSettled = true)
    (hc : isNeutral c = true) : m.next c = (m.pending ++ (start c).1, (start c).2) := by
  cases m with
  | between => rfl
  | word w => simp [next, isWordChar_of_isNeutral hc, closed, pending]
  | quotedEnd close name =>
    have hne := ne_close_of_isNeutral hc hm
    simp [next, hne, closed, pending]
  | literalEnd =>
    have hne : c ≠ '\'' := ne_of_isNeutral hc rfl
    simp [next, hne, closed, pending]
  | quoted close name | literal => cases hs

/-- After a neutral character either nothing is being read or a quotation is still open. -/
theorem next_eq_between {m : Mode} {c : Char} (hm : m.Usual) (hc : isNeutral c = true)
    (hs : (m.next c).2.isSettled = true) : (m.next c).2 = between := by
  cases hms : m.isSettled with
  | true => rw [next_of_isNeutral hm hms hc, start_of_isNeutral hc]
  | false =>
    cases m with
    | quoted close name =>
      have hne := ne_close_of_isNeutral hc hm
      simp [next, hne, isSettled] at hs
    | literal =>
      have hne : c ≠ '\'' := ne_of_isNeutral hc rfl
      simp [next, hne, isSettled] at hs
    | between | word w | quotedEnd close name | literalEnd => cases hms

theorem isSettled_of_finish {m : Mode} {ts : List Token} (h : m.finish = .ok ts) :
    m.isSettled = true := (finish_eq_ok.mp h).1

theorem scan_append_of_head {s rest : List Char} {m : Mode} {ts us : List Token} (hm : m.Usual)
    (hs : m.scan s = .ok ts) (hrest : rest.head?.all isNeutral = true)
    (hr : between.scan rest = .ok us) : m.scan (s ++ rest) = .ok (ts ++ us) := by
  induction s generalizing m ts with
  | nil =>
    obtain ⟨hset, rfl⟩ := finish_eq_ok.mp hs
    cases rest with
    | nil =>
      cases hr
      simpa only [List.append_nil] using hs
    | cons c rest =>
      obtain ⟨vs, hvs, rfl⟩ := scan_cons_eq_ok.mp hr
      refine scan_cons_eq_ok.mpr ⟨vs, ?_, ?_⟩
      · rw [next_of_isNeutral hm hset (by simpa using hrest)]
        exact hvs
      · rw [next_of_isNeutral hm hset (by simpa using hrest), List.append_assoc]
        rfl
  | cons c s ih =>
    obtain ⟨vs, hvs, rfl⟩ := scan_cons_eq_ok.mp hs
    exact scan_cons_eq_ok.mpr ⟨vs ++ us, ih (usual_next hm c) hvs, by rw [List.append_assoc]⟩

theorem scan_append_of_last {s rest : List Char} {m : Mode} {ts us : List Token} (hm : m.Usual)
    (hs : m.scan s = .ok ts) (hlast : s.getLast?.any isNeutral = true)
    (hr : between.scan rest = .ok us) : m.scan (s ++ rest) = .ok (ts ++ us) := by
  induction s generalizing m ts with
  | nil => cases hlast
  | cons c s ih =>
    obtain ⟨vs, hvs, rfl⟩ := scan_cons_eq_ok.mp hs
    refine scan_cons_eq_ok.mpr ⟨vs ++ us, ?_, by rw [List.append_assoc]⟩
    cases s with
    | nil =>
      have hset := isSettled_of_finish hvs
      rw [next_eq_between hm (by simpa using hlast) hset] at hvs ⊢
      cases hvs
      exact hr
    | cons d s => exact ih (usual_next hm c) hvs (by simpa using hlast)

/-! ## Placeholders -/

/-- Where the next character stands for the counting of placeholders. -/
def place : Mode → Place
  | between | word _ => .outside
  | quoted close _ => .inside close
  | quotedEnd close _ => .leaving close
  | literal => .inside '\''
  | literalEnd => .leaving '\''

theorem opened_of_ne {c : Char} (h1 : c ≠ '[') (h2 : c ≠ '"') (h3 : c ≠ '\'') :
    Place.opened c = .outside := by
  simp [Place.opened, Place.closer?, h1, h2, h3]

theorem place_start (c : Char) : (start c).2.place = Place.opened c := by
  by_cases h1 : c = '['
  · subst h1; rfl
  by_cases h2 : c = '"'
  · subst h2; rfl
  by_cases h3 : c = '\''
  · subst h3; rfl
  rw [opened_of_ne h1 h2 h3, start, if_neg h1, if_neg h2, if_neg h3]
  by_cases hb : Text.isBlank c = true
  · rw [if_pos hb]; rfl
  · rw [if_neg hb]
    by_cases hw : isWordChar c = true
    · rw [if_pos hw]; rfl
    · rw [if_neg hw]; rfl

theorem count_start (c : Char) :
    (start c).1.count (.symbol '?') = if c = '?' then 1 else 0 := by
  by_cases h : c = '?'
  · subst h; rfl
  · unfold start
    repeat' split
    all_goals simp [h]

/-- Reading and counting are at the same place after every character. -/
theorem place_next (m : Mode) (c : Char) : (m.next c).2.place = m.place.next c := by
  cases m with
  | between => exact place_start c
  | word w =>
    by_cases hw : isWordChar c = true
    · -- a character of a word opens no quotation
      have h1 : c ≠ '[' := by rintro rfl; cases hw
      have h2 : c ≠ '"' := by rintro rfl; cases hw
      have h3 : c ≠ '\'' := by rintro rfl; cases hw
      rw [next, if_pos hw]
      exact (opened_of_ne h1 h2 h3).symm
    · rw [next, if_neg hw]
      exact place_start c
  | quoted close name =>
    by_cases h : c = close
    · simp [next, h, place, Place.next]
    · simp [next, h, place, Place.next]
  | quotedEnd close name =>
    by_cases h : c = close
    · simp [next, h, place, Place.next]
    · simp only [next, if_neg h, place, Place.next]
      exact place_start c
  | literal =>
    by_cases h : c = '\''
    · simp [next, h, place, Place.next]
    · simp [next, h, place, Place.next]
  | literalEnd =>
    by_cases h : c = '\''
    · simp [next, h, place, Place.next]
    · simp only [next, if_neg h, place, Place.next]
      exact place_start c

theorem count_closed {t : Token} (ht : t ≠ .symbol '?') (c : Char) :
    (closed t c).1.count (.symbol '?') = if c = '?' then 1 else 0 := by
  simp only [closed]
  rw [List.count_cons_of_ne ht, count_start]

/-- A character finishes a placeholder exactly when it is one. -/
theorem count_next (m : Mode) (c : Char) : (m.next c).1.count (.symbol '?') =
    if c = '?' ∧ m.place.exposes c then 1 else 0 := by
  cases m with
  | between => simp [next, count_start, place, Place.exposes]
  | word w =>
    simp only [next]
    split
    · next hw =>
      have h : c ≠ '?' := by rintro rfl; cases hw
      simp [h]
    · simp [count_closed, place, Place.exposes]
  | quoted close name =>
    simp only [next]
    split <;> simp [place, Place.exposes]
  | quotedEnd close name =>
    simp only [next]
    split
    · next h => simp [place, Place.exposes, h]
    · next h => simp [count_closed, place, Place.exposes, h]
  | literal =>
    simp only [next]
    split <;> simp [place, Place.exposes]
  | literalEnd =>
    simp only [next]
    split
    · next h => simp [place, Place.exposes, h]
    · next h => simp [count_closed, place, Place.exposes, h]

/-- The two ways to walk over a text agree: as many characters count as placeholders as there
are `?` among the tokens. -/
theorem countPlaceholders_of_scan {s : List Char} {m : Mode} {ts : List Token}
    (h : m.scan s = .ok ts) : m.place.countPlaceholders s = ts.count (.symbol '?') := by
  induction s generalizing m ts with
  | nil =>
    obtain ⟨-, rfl⟩ := finish_eq_ok.mp h
    cases m <;> simp [Place.countPlaceholders, pending]
  | cons c s ih =>
    obtain ⟨us, hus, rfl⟩ := scan_cons_eq_ok.mp h
    rw [Place.countPlaceholders, List.count_append, count_next, ← ih hus, place_next]

/-- Where a text that starts at a place ends. -/
def placeAfter : Place → List Char → Place
  | p, [] => p
  | p, c :: s => placeAfter (p.next c) s

/-- A text is not read to its end when its end is inside a quotation, and then only; what is
missing is the character that closes the quotation. -/
theorem scan_eq_error_iff {s : List Char} {m : Mode} {fault : Fault} :
    m.scan s = .error fault ↔
      ∃ close, placeAfter m.place s = .inside close ∧ fault = unterminated close := by
  induction s generalizing m with
  | nil =>
    cases m <;> simp [scan, finish, place, placeAfter, eq_comm]
  | cons c s ih =>
    rw [placeAfter, ← place_next, ← ih, scan, bind_eq_error]
    constructor
    · rintro (h | ⟨_, -, h⟩)
      · exact h
      · cases h
    · exact .inl

/-! ## Names and numbers -/

theorem toNat_of_isDigit {c : Char} (h : c.isDigit = true) : 48 ≤ c.toNat ∧ c.toNat ≤ 57 := by
  simp only [Char.isDigit, Bool.and_eq_true, decide_eq_true_eq] at h
  exact ⟨h.1, h.2⟩

theorem isWordChar_of_isDigit {c : Char} (h : c.isDigit = true) : isWordChar c = true := by
  have hlt : c.toNat < 0x80 := by
    have := toNat_of_isDigit h
    omega
  simp [isWordChar, Text.isAlphanumeric, hlt, Char.isAlphanum, h]

theorem isBlank_of_isDigit {c : Char} (h : c.isDigit = true) : Text.isBlank c = false := by
  have hrange := toNat_of_isDigit h
  simp only [Text.isBlank, Text.inRanges, Text.blankRanges, List.any_cons, List.any_nil,
    Bool.or_false, Bool.or_eq_false_iff, Bool.and_eq_false_imp, decide_eq_true_eq,
    decide_eq_false_iff_not, Nat.not_le]
  omega

theorem start_of_isDigit {c : Char} (h : c.isDigit = true) : start c = ([], word [c]) := by
  have h1 : c ≠ '[' := by rintro rfl; cases h
  have h2 : c ≠ '"' := by rintro rfl; cases h
  have h3 : c ≠ '\'' := by rintro rfl; cases h
  rw [start, isBlank_of_isDigit h, if_neg Bool.false_ne_true, if_neg h1, if_neg h2, if_neg h3,
    if_pos (isWordChar_of_isDigit h)]

theorem scan_doubled (close : Char) (name acc rest : List Char) :
    (quoted close acc).scan (doubled close name ++ rest) =
      (quoted close (name.reverse ++ acc)).scan rest := by
  induction name generalizing acc with
  | nil => rfl
  | cons c name ih =>
    by_cases h : c = close
    · subst h
      have step : (quoted c acc).scan (doubled c (c :: name) ++ rest) =
          (quoted c (c :: acc)).scan (doubled c name ++ rest) := by
        simp [doubled, scan, next]
      rw [step, ih]
      simp
    · have step : (quoted close acc).scan (doubled close (c :: name) ++ rest) =
          (quoted close (c :: acc)).scan (doubled close name ++ rest) := by
        simp [doubled, scan, next, h]
      rw [step, ih]
      simp

theorem scan_closing (close : Char) (name : List Char) :
    (quoted close []).scan (doubled close name ++ [close]) =
      .ok [.quoted (String.ofList name)] := by
  rw [scan_doubled]
  simp [scan, next, finish]

theorem scan_digits {w : List Char} (acc : List Char) (h : ∀ c ∈ w, c.isDigit = true) :
    (word acc).scan w = .ok [.word (String.ofList (acc.reverse ++ w))] := by
  induction w generalizing acc with
  | nil => simp [scan, finish]
  | cons c w ih =>
    have hc := isWordChar_of_isDigit (h c List.mem_cons_self)
    have hw := ih (c :: acc) fun d hd => h d (List.mem_cons_of_mem c hd)
    rw [scan_cons_eq_ok, next, if_pos hc]
    exact ⟨_, hw, by simp⟩

end Mode

/-! ## Whole texts -/

/-- The text starts with a neutral character, or with nothing. -/
def StartsNeutral (s : List Char) : Prop := s.head?.all isNeutral = true

/-- The text ends with a neutral character. -/
def EndsNeutral (s : List Char) : Prop := s.getLast?.any isNeutral = true

theorem EndsNeutral.append (a : List Char) {b : List Char} (h : EndsNeutral b) :
    EndsNeutral (a ++ b) := by
  unfold EndsNeutral at h ⊢
  cases hb : b.getLast? with
  | none =>
    rw [hb] at h
    cases h
  | some c =>
    rw [List.getLast?_append, hb]
    rw [hb] at h
    exact h

theorem scan_append_of_start {s rest : List Char} {ts us : List Token} (hs : scan s = .ok ts)
    (hr : scan rest = .ok us) (h : StartsNeutral rest) : scan (s ++ rest) = .ok (ts ++ us) :=
  Mode.scan_append_of_head trivial hs h hr

theorem scan_append_of_end {s rest : List Char} {ts us : List Token} (hs : scan s = .ok ts)
    (hr : scan rest = .ok us) (h : EndsNeutral s) : scan (s ++ rest) = .ok (ts ++ us) :=
  Mode.scan_append_of_last trivial hs h hr

theorem countPlaceholders_of_scan {s : List Char} {ts : List Token} (h : scan s = .ok ts) :
    Place.outside.countPlaceholders s = ts.count (.symbol '?') :=
  Mode.countPlaceholders_of_scan h

/-- A quoted name is one token, whatever the name contains. -/
theorem scan_quote (q : Quoting) (name : String) :
    scan (q.quote name.toList) = .ok [.quoted name] := by
  cases q with
  | brackets =>
    have h := Mode.scan_closing ']' name.toList
    rw [String.ofList_toList] at h
    exact Mode.scan_cons_eq_ok.mpr ⟨_, h, rfl⟩
  | doubleQuotes =>
    have h := Mode.scan_closing '"' name.toList
    rw [String.ofList_toList] at h
    exact Mode.scan_cons_eq_ok.mpr ⟨_, h, rfl⟩

/-- A number is one word. -/
theorem scan_toString (n : Nat) : scan (toString n).toList = .ok [.word (toString n)] := by
  have hdigits : ∀ c ∈ (toString n).toList, c.isDigit = true := by
    intro c hc
    rw [Nat.toString_eq_ofList_toDigits, String.toList_ofList] at hc
    exact Nat.isDigit_of_mem_toDigits (by decide) (by decide) hc
  have hword : String.ofList (toString n).toList = toString n := String.ofList_toList
  cases hs : (toString n).toList with
  | nil =>
    rw [Nat.toString_eq_ofList_toDigits, String.toList_ofList] at hs
    exact absurd hs Nat.toDigits_ne_nil
  | cons c w =>
    rw [hs] at hdigits hword
    have hc := Mode.start_of_isDigit (hdigits c List.mem_cons_self)
    have hw := Mode.scan_digits [c] fun d hd => hdigits d (List.mem_cons_of_mem c hd)
    refine Mode.scan_cons_eq_ok.mpr ⟨[.word (toString n)], ?_, ?_⟩
    · rw [← hword, Mode.next, hc]
      exact hw
    · rw [Mode.next, hc]
      rfl

end Token

/-- Counting placeholders and reading tokens keep step over every text, whether a selection was
written as it or not. A text that is read has as many placeholders as there are `?` among its
tokens, and one that is not read is one at whose end counting stands inside a quotation too. -/
theorem scanners_agree (s : Statement) :
    (∀ ts, Token.scan s.text.toList = .ok ts → s.placeholderCount = ts.count (.symbol '?')) ∧
      ∀ fault, Token.scan s.text.toList = .error fault ↔
        ∃ close, Token.Mode.placeAfter .outside s.text.toList = .inside close ∧
          fault = Token.Mode.unterminated close :=
  ⟨fun _ => Token.countPlaceholders_of_scan, fun _ => Token.Mode.scan_eq_error_iff⟩

/-- Quotations right after each other, a bracket in a text literal, doubled closing characters,
and a `?` next to a word. Without its last character the text ends in a literal. -/
theorem scanners_agree_nested :
    let quoted := "a.b$?[x?]]\"]\"[?\"\"\"'it''s [?'?'"
    let s : Statement := ⟨quoted ++ "'", []⟩
    let ts : List Token := [.word "a.b$", .symbol '?', .quoted "x?]\"", .quoted "[?\"",
      .symbol '\'', .symbol '?', .symbol '\'']
    Token.scan s.text.toList = .ok ts ∧ s.placeholderCount = 2 ∧
      Token.scan quoted.toList = .error (Token.Mode.unterminated '\'') := by
  intro quoted s ts
  have hs : Token.scan s.text.toList = .ok ts := eq_ok_of_toOption (by decide +kernel)
  have hcount := (scanners_agree s).1 ts hs
  have hopen := (scanners_agree ⟨quoted, []⟩).2 (Token.Mode.unterminated '\'')
  exact ⟨hs, hcount, hopen.mpr ⟨'\'', by decide +kernel, rfl⟩⟩

end WorkbookQuery
