/-
  What chains of calls describe, as rules. `Applies m method args s n s' n'` says that the call
  turns the selection `s` into `s'`, numbering its constants from `n` up to `n'`, and `Drafts`
  that a whole chain describes a selection. The rules accept what the functions accept
  (`applyCall_eq_ok`, `draft_eq_ok`), so that a fact about all selections is proved call by
  call.
-/
import WorkbookQuery.Proofs.Body
import WorkbookQuery.Selection.Chain

namespace WorkbookQuery

namespace Term

theorem columnOfExpr_eq_ok {m : ColumnMap} {p c : String} {e : Expr} {n n' : Nat} :
    columnOfExpr m p e n = .ok (c, n') ↔ ofExpr m p e n = .ok (.column c, n') := by
  simp only [columnOfExpr, bind_eq_ok, pure_eq_ok, asColumn_eq_ok, Prod.mk.injEq]
  constructor
  · rintro ⟨⟨_, _⟩, h, _, rfl, rfl, rfl⟩
    exact h
  · intro h
    exact ⟨_, h, c, rfl, rfl, rfl⟩

/-- A column that is accepted is one by the rules. -/
theorem reads_of_columnOfExpr {m : ColumnMap} {p c : String} {e : Expr} {n n' : Nat}
    (h : columnOfExpr m p e n = .ok (c, n')) : Reads m p e n (.column c) n' :=
  reads_of_ofExpr (columnOfExpr_eq_ok.mp h)

/-- A column is neither the parameter itself nor a record. -/
theorem forms_of_columnOfExpr {m : ColumnMap} {p c : String} {e : Expr} {n n' : Nat}
    (h : columnOfExpr m p e n = .ok (c, n')) :
    isOwn p e = false ∧ ∀ fields, e ≠ .record fields := by
  cases e with
  | parameter name | record fields => cases h
  | _ => exact ⟨rfl, nofun⟩

end Term

namespace Expr

theorem reject_ne_ok {α : Type} {e : Expr} {a : α} : e.reject ≠ .ok a := nofun

theorem soleLambda_eq_ok {node : Expr} {args : List Expr} {p : String} {body : Expr} :
    node.soleLambda args = .ok (p, body) ↔ args = [.lambda p body] := by
  unfold soleLambda
  split
  · simp
  · next h =>
    simp only [reject_ne_ok, false_iff]
    exact h p body

theorem rowCount_eq_ok {node : Expr} {args : List Expr} {k : Nat} :
    node.rowCount args = .ok k ↔ ∃ l count, args = [.constant l] ∧
      l.value.coerce .integer = .ok (.integer count) ∧ 0 ≤ count.toInt ∧
        count.toInt.toNat = k := by
  unfold rowCount
  split
  · next l =>
    split
    · next count hcount =>
      split
      · next h => simp [hcount, h]
      · next h => simp [hcount, h, reject_ne_ok]
    · next h =>
      simp only [reject_ne_ok, false_iff]
      rintro ⟨_, count, hl, hcount, -⟩
      cases hl
      exact h count hcount
  · next h =>
    simp only [reject_ne_ok, false_iff]
    rintro ⟨l, _, hl, -⟩
    exact h l hl

end Expr

namespace Selection

/-- The calls that order rows: in which direction, and whether they continue an order. -/
def ordering? : String → Option (Direction × Bool)
  | "order_by" => some (.ascending, false)
  | "order_by_descending" => some (.descending, false)
  | "then_by" => some (.ascending, true)
  | "then_by_descending" => some (.descending, true)
  | _ => none

/-- The calls that ask for one row. -/
def first? : String → Option Cardinality
  | "first" => some .first
  | "first_or_default" => some .firstOrDefault
  | _ => none

/-- Conditions and orders are still possible. -/
def IsOpen (s : Selection) : Prop := s.limit = none ∧ s.isProjected = false

inductive Applies (m : ColumnMap) :
    String → List Expr → Selection → Nat → Selection → Nat → Prop where
  | filter {p body s f n n'} : s.IsOpen → Term.filterOfExpr m p body n = .ok (f, n') →
      Applies m "where" [.lambda p body] s n (s.narrow f) n'
  | ordering {method direction continued p body s c n n'} :
      ordering? method = some (direction, continued) → s.IsOpen →
      (continued = true → s.ordering ≠ []) → Term.columnOfExpr m p body n = .ok (c, n') →
      Applies m method [.lambda p body] s n
        { s with ordering := s.ordering ++ [⟨c, direction⟩] } n'
  | take {l count s n} : l.value.coerce .integer = .ok (.integer count) → 0 ≤ count.toInt →
      Applies m "take" [.constant l] s n { s with limit := some count.toInt.toNat } n
  | first {method cardinality s n} : first? method = some cardinality →
      Applies m method [] s n { s with limit := some 1, cardinality } n
  | firstWhere {method cardinality p body s f n n'} : first? method = some cardinality →
      s.IsOpen → Term.filterOfExpr m p body n = .ok (f, n') →
      Applies m method [.lambda p body] s n
        { s.narrow f with limit := some 1, cardinality } n'
  | identity {p s n} : s.isProjected = false →
      Applies m "select" [.lambda p (.parameter p)] s n s n
  | record {p fields columns s n n'} : s.isProjected = false →
      fieldColumns m p fields n = .ok (columns, n') →
      Applies m "select" [.lambda p (.record fields)] s n
        { s with projection := .columns columns, element := .dynamic } n'
  | column {p body s c n n'} : s.isProjected = false →
      Term.columnOfExpr m p body n = .ok (c, n') →
      Applies m "select" [.lambda p body] s n
        { s with projection := .columns [⟨c, none⟩], element := .dynamic } n'
  | asRows {s n} : Applies m "as_rows" [] s n { s with element := .dynamic } n

inductive Drafts (m : ColumnMap) (worksheet : String) : Expr → Selection → Nat → Prop where
  | source {element} : Drafts m worksheet (.source element) { worksheet, element } 0
  | call {target method args s s' n n'} : Drafts m worksheet target s n →
      Applies m method args s n s' n' →
      Drafts m worksheet (.call target method args) s' n'

/-! ## Single calls -/

variable {m : ColumnMap} {node : Expr} {args : List Expr} {s s' : Selection} {n n' : Nat}

/-- A step that is taken when nothing speaks against it. -/
theorem guard_eq_ok {α : Type} {c : Prop} [Decidable c] {x : Except Fault α} {a : α} :
    (if c then (node.reject : Except Fault Unit) >>= fun _ => x else x) = .ok a ↔
      ¬ c ∧ x = .ok a := by
  split
  · next h => simp [h, bind_eq_ok, Expr.reject_ne_ok]
  · next h => simp [h]

theorem addFilter_eq_ok : s.addFilter m node args n = .ok (s', n') ↔ ∃ p body f,
    args = [.lambda p body] ∧ s.IsOpen ∧ Term.filterOfExpr m p body n = .ok (f, n') ∧
      s.narrow f = s' := by
  simp only [addFilter, bind_eq_ok, guard_eq_ok, pure_eq_ok, Prod.exists, Prod.mk.injEq,
    Expr.soleLambda_eq_ok, IsOpen]
  constructor
  · rintro ⟨p, body, rfl, h, f, _, hf, rfl, rfl⟩
    exact ⟨p, body, f, rfl, by simpa using h, hf, rfl⟩
  · rintro ⟨p, body, f, rfl, h, hf, rfl⟩
    exact ⟨p, body, rfl, by simpa using h, f, n', hf, rfl, rfl⟩

theorem addOrdering_eq_ok {direction : Direction} {continued : Bool} :
    s.addOrdering m direction continued node args n = .ok (s', n') ↔ ∃ p body c,
      args = [.lambda p body] ∧ s.IsOpen ∧ (continued = true → s.ordering ≠ []) ∧
        Term.columnOfExpr m p body n = .ok (c, n') ∧
          { s with ordering := s.ordering ++ [⟨c, direction⟩] } = s' := by
  simp only [addOrdering, bind_eq_ok, guard_eq_ok, pure_eq_ok, Prod.exists, Prod.mk.injEq,
    Expr.soleLambda_eq_ok, IsOpen]
  constructor
  · rintro ⟨p, body, rfl, c, _, hc, h, rfl, rfl⟩
    simp only [not_or, not_and, List.isEmpty_iff] at h
    exact ⟨p, body, c, rfl, ⟨by simpa using h.1, by simpa using h.2.1⟩, h.2.2, hc, rfl⟩
  · rintro ⟨p, body, c, rfl, h, hcontinued, hc, rfl⟩
    refine ⟨p, body, rfl, c, n', hc, ?_, rfl, rfl⟩
    simp only [not_or, not_and, List.isEmpty_iff]
    exact ⟨by simp [h.1], by simp [h.2], hcontinued⟩

theorem takeFirst_eq_ok {cardinality : Cardinality} :
    s.takeFirst m cardinality node args n = .ok (s', n') ↔
      (args = [] ∧ { s with limit := some 1, cardinality } = s' ∧ n = n') ∨
        ∃ p body f, args = [.lambda p body] ∧ s.IsOpen ∧
          Term.filterOfExpr m p body n = .ok (f, n') ∧
            { s.narrow f with limit := some 1, cardinality } = s' := by
  unfold takeFirst
  cases args with
  | nil =>
    simp [pure_eq_ok]
  | cons a as =>
    simp only [List.isEmpty_cons, Bool.false_eq_true, if_false, bind_eq_ok, pure_eq_ok,
      Prod.exists, Prod.mk.injEq, addFilter_eq_ok]
    constructor
    · rintro ⟨_, _, ⟨p, body, f, hargs, h, hf, rfl⟩, rfl, rfl⟩
      exact .inr ⟨p, body, f, hargs, h, hf, rfl⟩
    · rintro (⟨h, -⟩ | ⟨p, body, f, hargs, h, hf, rfl⟩)
      · cases h
      · exact ⟨_, _, ⟨p, body, f, hargs, h, hf, rfl⟩, rfl, rfl⟩

theorem project_eq_ok : s.project m node args n = .ok (s', n') ↔ s.isProjected = false ∧
    ((∃ p, args = [.lambda p (.parameter p)] ∧ s = s' ∧ n = n') ∨
      (∃ p fields columns, args = [.lambda p (.record fields)] ∧
        fieldColumns m p fields n = .ok (columns, n') ∧
          { s with projection := .columns columns, element := .dynamic } = s') ∨
      ∃ p body c, args = [.lambda p body] ∧ Term.columnOfExpr m p body n = .ok (c, n') ∧
        { s with projection := .columns [⟨c, none⟩], element := .dynamic } = s') := by
  simp only [project, bind_eq_ok, guard_eq_ok, Prod.exists, Expr.soleLambda_eq_ok]
  constructor
  · rintro ⟨p, body, rfl, hs, h⟩
    refine ⟨by simpa using hs, ?_⟩
    by_cases hp : Term.isOwn p body = true
    · rw [if_pos hp, pure_eq_ok] at h
      cases h
      exact .inl ⟨p, by rw [Term.eq_parameter_of_isOwn hp], rfl, rfl⟩
    · rw [if_neg hp] at h
      split at h
      · next fields =>
        simp only [bind_eq_ok, pure_eq_ok, Prod.exists, Prod.mk.injEq] at h
        obtain ⟨columns, _, hcolumns, rfl, rfl⟩ := h
        exact .inr (.inl ⟨p, fields, columns, rfl, hcolumns, rfl⟩)
      · simp only [bind_eq_ok, pure_eq_ok, Prod.exists, Prod.mk.injEq] at h
        obtain ⟨c, _, hc, _, _, ⟨rfl, rfl⟩, rfl, rfl⟩ := h
        exact .inr (.inr ⟨p, body, c, rfl, hc, rfl⟩)
  · rintro ⟨hs, ⟨p, rfl, rfl, rfl⟩ | ⟨p, fields, columns, rfl, hcolumns, rfl⟩ |
      ⟨p, body, c, rfl, hc, rfl⟩⟩
    · exact ⟨p, .parameter p, rfl, by simp [hs], by rw [if_pos (by simp [Term.isOwn])]; rfl⟩
    · refine ⟨p, .record fields, rfl, by simp [hs], ?_⟩
      rw [if_neg (by simp [Term.isOwn])]
      dsimp only
      rw [hcolumns]
      rfl
    · obtain ⟨hown, hrecord⟩ := Term.forms_of_columnOfExpr hc
      refine ⟨p, body, rfl, by simp [hs], ?_⟩
      rw [if_neg (by simp [hown])]
      split
      · exact absurd rfl (hrecord _)
      · rw [hc]
        rfl

/-! ## Calls by name -/

variable {method : String}

theorem applyCall_of_ordering? {direction : Direction} {continued : Bool}
    (h : ordering? method = some (direction, continued)) :
    s.applyCall m node method args n = s.addOrdering m direction continued node args n := by
  unfold ordering? at h
  split at h <;> cases h <;> rfl

theorem applyCall_of_first? {cardinality : Cardinality}
    (h : first? method = some cardinality) :
    s.applyCall m node method args n = s.takeFirst m cardinality node args n := by
  unfold first? at h
  split at h <;> cases h <;> rfl

theorem applies_of_addOrdering {direction : Direction} {continued : Bool}
    (hmethod : ordering? method = some (direction, continued))
    (h : s.addOrdering m direction continued node args n = .ok (s', n')) :
    Applies m method args s n s' n' := by
  obtain ⟨p, body, c, rfl, hs, hcontinued, hc, rfl⟩ := addOrdering_eq_ok.mp h
  exact .ordering hmethod hs hcontinued hc

theorem applies_of_takeFirst {cardinality : Cardinality}
    (hmethod : first? method = some cardinality)
    (h : s.takeFirst m cardinality node args n = .ok (s', n')) :
    Applies m method args s n s' n' := by
  obtain ⟨rfl, rfl, rfl⟩ | ⟨p, body, f, rfl, hs, hf, rfl⟩ := takeFirst_eq_ok.mp h
  · exact .first hmethod
  · exact .firstWhere hmethod hs hf

/-- The function accepts the calls of the rules and no others. -/
theorem applyCall_eq_ok :
    s.applyCall m node method args n = .ok (s', n') ↔ Applies m method args s n s' n' := by
  constructor
  · intro h
    unfold applyCall at h
    split at h
    · obtain ⟨p, body, f, rfl, hs, hf, rfl⟩ := addFilter_eq_ok.mp h
      exact .filter hs hf
    · exact applies_of_addOrdering rfl h
    · exact applies_of_addOrdering rfl h
    · exact applies_of_addOrdering rfl h
    · exact applies_of_addOrdering rfl h
    · simp only [bind_eq_ok, pure_eq_ok, Prod.mk.injEq, Expr.rowCount_eq_ok] at h
      obtain ⟨_, ⟨l, count, rfl, hl, hcount, rfl⟩, rfl, rfl⟩ := h
      exact .take hl hcount
    · exact applies_of_takeFirst rfl h
    · exact applies_of_takeFirst rfl h
    · obtain ⟨hs, ⟨p, rfl, rfl, rfl⟩ | ⟨p, fields, columns, rfl, hcolumns, rfl⟩ |
        ⟨p, body, c, rfl, hc, rfl⟩⟩ := project_eq_ok.mp h
      · exact .identity hs
      · exact .record hs hcolumns
      · exact .column hs hc
    · split at h
      · next hargs =>
        cases h
        rw [List.isEmpty_iff.mp hargs]
        exact .asRows
      · cases h
    · cases h
  · intro h
    cases h with
    | filter hs hf => exact addFilter_eq_ok.mpr ⟨_, _, _, rfl, hs, hf, rfl⟩
    | ordering hmethod hs hcontinued hc =>
      rw [applyCall_of_ordering? hmethod]
      exact addOrdering_eq_ok.mpr ⟨_, _, _, rfl, hs, hcontinued, hc, rfl⟩
    | @take l count _ _ hl hcount =>
      have hrows : node.rowCount [.constant l] = .ok count.toInt.toNat :=
        Expr.rowCount_eq_ok.mpr ⟨l, count, rfl, hl, hcount, rfl⟩
      simp only [applyCall, hrows]
      rfl
    | first hmethod =>
      rw [applyCall_of_first? hmethod]
      exact takeFirst_eq_ok.mpr (.inl ⟨rfl, rfl, rfl⟩)
    | firstWhere hmethod hs hf =>
      rw [applyCall_of_first? hmethod]
      exact takeFirst_eq_ok.mpr (.inr ⟨_, _, _, rfl, hs, hf, rfl⟩)
    | identity hs => exact project_eq_ok.mpr ⟨hs, .inl ⟨_, rfl, rfl, rfl⟩⟩
    | record hs hcolumns =>
      exact project_eq_ok.mpr ⟨hs, .inr (.inl ⟨_, _, _, rfl, hcolumns, rfl⟩)⟩
    | column hs hc => exact project_eq_ok.mpr ⟨hs, .inr (.inr ⟨_, _, _, rfl, hc, rfl⟩)⟩
    | asRows => rfl

/-- What the rules for a call ask for, by its name. -/
theorem applies_where : Applies m "where" args s n s' n' ↔ ∃ p body f,
    args = [.lambda p body] ∧ s.IsOpen ∧ Term.filterOfExpr m p body n = .ok (f, n') ∧
      s.narrow f = s' :=
  (@applyCall_eq_ok m .null args s s' n n' "where").symm.trans addFilter_eq_ok

theorem applies_ordering {direction : Direction} {continued : Bool}
    (h : ordering? method = some (direction, continued)) :
    Applies m method args s n s' n' ↔ ∃ p body c, args = [.lambda p body] ∧ s.IsOpen ∧
      (continued = true → s.ordering ≠ []) ∧ Term.columnOfExpr m p body n = .ok (c, n') ∧
        { s with ordering := s.ordering ++ [⟨c, direction⟩] } = s' := by
  rw [← @applyCall_eq_ok m .null, applyCall_of_ordering? h]
  exact addOrdering_eq_ok

theorem applies_take : Applies m "take" args s n s' n' ↔ ∃ l count, args = [.constant l] ∧
    l.value.coerce .integer = .ok (.integer count) ∧ 0 ≤ count.toInt ∧
      { s with limit := some count.toInt.toNat } = s' ∧ n = n' := by
  rw [← @applyCall_eq_ok m .null]
  simp only [applyCall, bind_eq_ok, pure_eq_ok, Prod.mk.injEq, Expr.rowCount_eq_ok]
  constructor
  · rintro ⟨_, ⟨l, count, hargs, hl, hcount, rfl⟩, hs, hn⟩
    exact ⟨l, count, hargs, hl, hcount, hs, hn⟩
  · rintro ⟨l, count, hargs, hl, hcount, hs, hn⟩
    exact ⟨_, ⟨l, count, hargs, hl, hcount, rfl⟩, hs, hn⟩

theorem applies_as_rows : Applies m "as_rows" args s n s' n' ↔
    args = [] ∧ { s with element := .dynamic } = s' ∧ n = n' := by
  rw [← @applyCall_eq_ok m .null]
  cases args with
  | nil => simp [applyCall]
  | cons a as => simp [applyCall, Expr.reject_ne_ok]

theorem applies_first {cardinality : Cardinality} (h : first? method = some cardinality) :
    Applies m method args s n s' n' ↔
      (args = [] ∧ { s with limit := some 1, cardinality } = s' ∧ n = n') ∨
        ∃ p body f, args = [.lambda p body] ∧ s.IsOpen ∧
          Term.filterOfExpr m p body n = .ok (f, n') ∧
            { s.narrow f with limit := some 1, cardinality } = s' := by
  rw [← @applyCall_eq_ok m .null, applyCall_of_first? h]
  exact takeFirst_eq_ok

theorem applies_select : Applies m "select" args s n s' n' ↔ s.isProjected = false ∧
    ((∃ p, args = [.lambda p (.parameter p)] ∧ s = s' ∧ n = n') ∨
      (∃ p fields columns, args = [.lambda p (.record fields)] ∧
        fieldColumns m p fields n = .ok (columns, n') ∧
          { s with projection := .columns columns, element := .dynamic } = s') ∨
      ∃ p body c, args = [.lambda p body] ∧ Term.columnOfExpr m p body n = .ok (c, n') ∧
        { s with projection := .columns [⟨c, none⟩], element := .dynamic } = s') :=
  (@applyCall_eq_ok m .null args s s' n n' "select").symm.trans project_eq_ok

/-! ## Chains -/

/-- A chain describes what its calls make of the worksheet, one after the other. -/
theorem draft_eq_ok {worksheet : String} {e : Expr} :
    draft m worksheet e = .ok (s, n) ↔ Drafts m worksheet e s n := by
  constructor
  · intro h
    induction e using draft.induct generalizing s n with
    | case1 element => cases h; exact .source
    | case2 target method args ih =>
      obtain ⟨⟨s₁, n₁⟩, htarget, hcall⟩ := bind_eq_ok.mp h
      exact .call (ih htarget) (applyCall_eq_ok.mp hcall)
    | case3 e hsource hcall =>
      rw [draft] at h
      · exact absurd h Expr.reject_ne_ok
      · exact hsource
      · exact hcall
  · intro h
    induction h with
    | source => rfl
    | call _ hcall ih => exact bind_eq_ok.mpr ⟨_, ih, applyCall_eq_ok.mpr hcall⟩

theorem ofExpr_eq_ok {worksheet : String} {e : Expr} :
    ofExpr e m worksheet = .ok s ↔ ∃ n, Drafts m worksheet e s n := by
  simp only [ofExpr, bind_eq_ok, pure_eq_ok, draft_eq_ok, Prod.exists]
  constructor
  · rintro ⟨_, n, h, rfl⟩
    exact ⟨n, h⟩
  · rintro ⟨n, h⟩
    exact ⟨s, n, h, rfl⟩

end Selection

end WorkbookQuery
