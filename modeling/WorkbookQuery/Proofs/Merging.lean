/-
  Conditions one after the other, and conditions in one conjunction. A chain may filter by several
  bodies in turn or by all of them at once. Either both chains compile or neither does, and both
  bind the same constants under the same numbers. A chain without an earlier condition then selects
  the same either way. Behind an earlier condition the two differ in how the conjunction is nested:
  the calls are nested to the left, the earlier condition innermost, and the conjunction stands
  behind the earlier condition as a whole (`merged_or_regrouped`).
-/
import WorkbookQuery.Proofs.Language
import WorkbookQuery.Proofs.Parameters

namespace WorkbookQuery

/-! ## Chains with conditions -/

namespace Expr

/-- The chain with a condition for each body, all over one parameter. -/
def filtered (e : Expr) (x : String) (bodies : List Expr) : Expr :=
  bodies.foldl (fun e body => .call e "where" [.lambda x body]) e

/-- Bodies in one conjunction, nested to the left. -/
def conjunction (p : Expr) (ps : List Expr) : Expr := ps.foldl (.binary .and) p

end Expr

namespace Term

/-- The conditions that bodies stand for, each numbered on from those before it. -/
inductive Conditions (m : ColumnMap) (x : String) : List Expr → Nat → List Filter → Nat → Prop where
  | nil {n} : Conditions m x [] n [] n
  | cons {p ps f fs n k n'} : filterOfExpr m x p n = .ok (f, k) → Conditions m x ps k fs n' →
      Conditions m x (p :: ps) n (f :: fs) n'

variable {m : ColumnMap} {x : String} {p q : Expr} {ps : List Expr} {h : Filter} {n n' : Nat}

theorem Conditions.length_eq {fs : List Filter} (h : Conditions m x ps n fs n') :
    fs.length = ps.length := by
  induction h with
  | nil => rfl
  | cons _ _ ih => rw [List.length_cons, List.length_cons, ih]

/-- A conjunction numbers the constants of its left part first. A part that is a column alone is
a condition, with a constant of its own, before the next part is read. -/
theorem filterOfExpr_and : filterOfExpr m x (.binary .and p q) n = .ok (h, n') ↔
    ∃ f g k, filterOfExpr m x p n = .ok (f, k) ∧ filterOfExpr m x q k = .ok (g, n') ∧
      .and f g = h := by
  simp only [filterOfExpr, ofExpr, comparison?, connective?, bind_eq_ok, pure_eq_ok]
  constructor
  · rintro ⟨_, ⟨t, ht, ⟨f, k⟩, hf, t', ht', ⟨g, k'⟩, hg, rfl⟩, hand⟩
    cases hand
    exact ⟨f, g, k, ⟨t, ht, hf⟩, ⟨t', ht', hg⟩, rfl⟩
  · rintro ⟨f, g, k, ⟨t, ht, hf⟩, ⟨t', ht', hg⟩, rfl⟩
    exact ⟨_, ⟨t, ht, (f, k), hf, t', ht', (g, n'), hg, rfl⟩, rfl⟩

/-- A conjunction is read as its parts are, one after the other, by induction on the parts behind
the first one. -/
theorem filterOfExpr_conjunction : filterOfExpr m x (Expr.conjunction p ps) n = .ok (h, n') ↔
    ∃ f fs, Conditions m x (p :: ps) n (f :: fs) n' ∧ fs.foldl .and f = h := by
  induction ps generalizing p h with
  | nil =>
    constructor
    · intro hp
      exact ⟨h, [], .cons hp .nil, rfl⟩
    · rintro ⟨f, fs, hconditions, rfl⟩
      cases hconditions with
      | cons hp hrest =>
        cases hrest
        exact hp
  | cons q ps ih =>
    refine (ih (p := .binary .and p q)).trans ?_
    constructor
    · rintro ⟨_, fs, hconditions, hfs⟩
      cases hconditions with
      | cons hpq hrest =>
        obtain ⟨f, g, k, hp, hq, rfl⟩ := filterOfExpr_and.mp hpq
        exact ⟨f, g :: fs, .cons hp (.cons hq hrest), hfs⟩
    · rintro ⟨f, _, hconditions, hfs⟩
      cases hconditions with
      | cons hp hrest =>
        cases hrest with
        | @cons _ _ g fs _ _ _ hq hrest =>
          exact ⟨.and f g, fs, .cons (filterOfExpr_and.mpr ⟨f, g, _, hp, hq, rfl⟩) hrest, hfs⟩

end Term

namespace Selection

open Term (Conditions)

variable {m : ColumnMap} {worksheet x : String} {e p : Expr} {ps : List Expr}
  {s base : Selection} {n n' : Nat}

/-! ## What the conditions select -/

theorem drafts_where : Drafts m worksheet (.call e "where" [.lambda x p]) s n' ↔
    ∃ base n f, Drafts m worksheet e base n ∧ base.IsOpen ∧
      Term.filterOfExpr m x p n = .ok (f, n') ∧ base.narrow f = s := by
  constructor
  · intro h
    cases h with
    | call he hcall =>
      obtain ⟨_, _, f, hargs, hopen, hf, hs⟩ := applies_where.mp hcall
      cases hargs
      exact ⟨_, _, f, he, hopen, hf, hs⟩
  · rintro ⟨base, n, f, he, hopen, hf, rfl⟩
    exact .call he (.filter hopen hf)

/-- One condition after the other narrows what is selected again and again, by induction on the
bodies behind the first one. -/
theorem drafts_filtered : Drafts m worksheet (e.filtered x (p :: ps)) s n' ↔
    ∃ base n f fs, Drafts m worksheet e base n ∧ base.IsOpen ∧
      Conditions m x (p :: ps) n (f :: fs) n' ∧ fs.foldl narrow (base.narrow f) = s := by
  induction ps generalizing e p with
  | nil =>
    refine drafts_where.trans ?_
    constructor
    · rintro ⟨base, n, f, he, hopen, hf, hs⟩
      exact ⟨base, n, f, [], he, hopen, .cons hf .nil, hs⟩
    · rintro ⟨base, n, f, fs, he, hopen, hconditions, hs⟩
      cases hconditions with
      | cons hf hrest =>
        cases hrest
        exact ⟨base, n, f, he, hopen, hf, hs⟩
  | cons q ps ih =>
    refine (ih (e := .call e "where" [.lambda x p])).trans ?_
    constructor
    · rintro ⟨_, k, g, fs, hwhere, hopen, hconditions, hs⟩
      obtain ⟨base, n, f, he, hbase, hf, rfl⟩ := drafts_where.mp hwhere
      exact ⟨base, n, f, g :: fs, he, hbase, .cons hf hconditions, hs⟩
    · rintro ⟨base, n, f, _, he, hopen, hconditions, hs⟩
      cases hconditions with
      | cons hf hrest =>
        cases hrest with
        | @cons _ _ g fs _ _ _ hg hrest =>
          exact ⟨base.narrow f, _, g, fs, drafts_where.mpr ⟨base, n, f, he, hopen, hf, rfl⟩, hopen,
            .cons hg hrest, hs⟩

/-- The conjunction narrows what is selected once. -/
theorem drafts_merged :
    Drafts m worksheet (e.filtered x [Expr.conjunction p ps]) s n' ↔
      ∃ base n f fs, Drafts m worksheet e base n ∧ base.IsOpen ∧
        Conditions m x (p :: ps) n (f :: fs) n' ∧ base.narrow (fs.foldl .and f) = s := by
  refine drafts_where.trans ?_
  constructor
  · rintro ⟨base, n, h, he, hopen, hf, hs⟩
    obtain ⟨f, fs, hconditions, rfl⟩ := Term.filterOfExpr_conjunction.mp hf
    exact ⟨base, n, f, fs, he, hopen, hconditions, hs⟩
  · rintro ⟨base, n, f, fs, he, hopen, hconditions, hs⟩
    exact ⟨base, n, _, he, hopen, Term.filterOfExpr_conjunction.mpr ⟨f, fs, hconditions, rfl⟩, hs⟩

theorem merged_of_split (h : ofExpr (e.filtered x (p :: ps)) m worksheet = .ok s) :
    ∃ base f, ∃ fs : List Filter, ofExpr e m worksheet = .ok base ∧ fs.length = ps.length ∧
      fs.foldl narrow (base.narrow f) = s ∧
      ofExpr (e.filtered x [Expr.conjunction p ps]) m worksheet =
        .ok (base.narrow (fs.foldl .and f)) := by
  obtain ⟨n, hdrafts⟩ := ofExpr_eq_ok.mp h
  obtain ⟨base, k, f, fs, he, hopen, hconditions, hs⟩ := drafts_filtered.mp hdrafts
  refine ⟨base, f, fs, ofExpr_eq_ok.mpr ⟨k, he⟩, Nat.succ.inj hconditions.length_eq, hs, ?_⟩
  exact ofExpr_eq_ok.mpr ⟨n, drafts_merged.mpr ⟨base, k, f, fs, he, hopen, hconditions, rfl⟩⟩

theorem split_of_merged (h : ofExpr (e.filtered x [Expr.conjunction p ps]) m worksheet = .ok s) :
    ∃ s', ofExpr (e.filtered x (p :: ps)) m worksheet = .ok s' := by
  obtain ⟨n, hdrafts⟩ := ofExpr_eq_ok.mp h
  obtain ⟨base, k, f, fs, he, hopen, hconditions, -⟩ := drafts_merged.mp hdrafts
  exact ⟨_, ofExpr_eq_ok.mpr
    ⟨n, drafts_filtered.mpr ⟨base, k, f, fs, he, hopen, hconditions, rfl⟩⟩⟩

/-! ## How the conditions are nested -/

/-- Conditions behind an earlier one are nested to the left, and the earlier one is innermost. -/
theorem foldl_narrow {earlier : Filter} (h : base.filter = some earlier) (fs : List Filter) :
    fs.foldl narrow base = { base with filter := some (fs.foldl .and earlier) } := by
  induction fs generalizing base earlier with
  | nil =>
    rw [List.foldl_nil, List.foldl_nil, ← h]
  | cons f fs ih =>
    have hf : (base.narrow f).filter = some (.and earlier f) := by
      rw [narrow, h]
    rw [List.foldl_cons, ih hf]
    rfl

/-- Without an earlier condition both ways nest the conditions alike. -/
theorem narrow_of_no_filter (h : base.filter = none) (f : Filter) (fs : List Filter) :
    fs.foldl narrow (base.narrow f) = { base with filter := some (fs.foldl .and f) } ∧
      base.narrow (fs.foldl .and f) = { base with filter := some (fs.foldl .and f) } := by
  have hnarrow (g : Filter) : base.narrow g = { base with filter := some g } := by
    rw [narrow, h]
  have hf : (base.narrow f).filter = some f := by rw [hnarrow]
  rw [foldl_narrow hf, hnarrow, hnarrow]
  exact ⟨rfl, rfl⟩

/-- Behind an earlier condition the conditions are nested one by one, or as a whole. -/
theorem narrow_of_filter {earlier : Filter} (h : base.filter = some earlier) (f : Filter)
    (fs : List Filter) :
    fs.foldl narrow (base.narrow f) =
        { base with filter := some (fs.foldl .and (.and earlier f)) } ∧
      base.narrow (fs.foldl .and f) =
        { base with filter := some (.and earlier (fs.foldl .and f)) } := by
  have hnarrow (g : Filter) : base.narrow g = { base with filter := some (.and earlier g) } := by
    rw [narrow, h]
  have hf : (base.narrow f).filter = some (.and earlier f) := by rw [hnarrow]
  rw [foldl_narrow hf, hnarrow, hnarrow]
  exact ⟨rfl, rfl⟩

/-- Both ways bind the same constants in the same order. -/
theorem literals_foldl_narrow (f : Filter) (fs : List Filter) :
    (fs.foldl narrow (base.narrow f)).literals = (base.narrow (fs.foldl .and f)).literals := by
  induction fs generalizing base f with
  | nil => rfl
  | cons g fs ih =>
    rw [List.foldl_cons, ih, literals_narrow, literals_narrow, literals_narrow, List.foldl_cons,
      Call.literals_foldl_and, Call.literals_foldl_and, Filter.literals]
    simp only [List.append_assoc]

/-! ## One row that meets a condition -/

/-- Asking for one row that meets a condition is filtering by it and asking for one row. -/
theorem drafts_firstWhere {method : String} {cardinality : Cardinality}
    (hmethod : first? method = some cardinality) :
    Drafts m worksheet (.call e method [.lambda x p]) s n' ↔
      Drafts m worksheet (.call (e.filtered x [p]) method []) s n' := by
  constructor
  · intro h
    cases h with
    | call he hcall =>
      obtain ⟨hargs, -⟩ | ⟨_, _, f, hargs, hopen, hf, rfl⟩ := (applies_first hmethod).mp hcall
      · cases hargs
      · cases hargs
        exact .call (drafts_where.mpr ⟨_, _, f, he, hopen, hf, rfl⟩) (.first hmethod)
  · intro h
    cases h with
    | call he hcall =>
      obtain ⟨-, rfl, rfl⟩ | ⟨_, _, _, hargs, -⟩ := (applies_first hmethod).mp hcall
      · obtain ⟨base, k, f, hbase, hopen, hf, rfl⟩ := drafts_where.mp he
        exact .call hbase (.firstWhere hmethod hopen hf)
      · cases hargs

theorem first?_of_mem {method : String} (h : method ∈ ["first", "first_or_default"]) :
    ∃ cardinality, first? method = some cardinality := by
  simp only [List.mem_cons, List.not_mem_nil, or_false] at h
  rcases h with rfl | rfl
  · exact ⟨.first, rfl⟩
  · exact ⟨.firstOrDefault, rfl⟩

/-- Expressions that describe the same selections compile alike. -/
theorem toOption_ofExpr_congr {e e' : Expr}
    (h : ∀ s n, Drafts m worksheet e s n ↔ Drafts m worksheet e' s n) :
    (ofExpr e m worksheet).toOption = (ofExpr e' m worksheet).toOption := by
  have hiff : ∀ s, ofExpr e m worksheet = .ok s ↔ ofExpr e' m worksheet = .ok s := by
    intro s
    rw [ofExpr_eq_ok, ofExpr_eq_ok]
    exact exists_congr (h s)
  cases he : ofExpr e m worksheet with
  | ok s => rw [(hiff s).mp he]
  | error fault =>
    cases he' : ofExpr e' m worksheet with
    | ok s =>
      rw [(hiff s).mpr he'] at he
      cases he
    | error fault' => rfl

end Selection

/-! ## Splitting and merging -/

open Selection in
/-- Filtering by several bodies in turn, and by their conjunction. Both fail to compile, or both
compile. Then they select the same, when there is no condition before them, and otherwise the
same but for the condition: the calls nest it to the left, and the conjunction stands behind the
earlier condition as a whole. With a single body this is the same again. The same constants are
bound under the same numbers in any case. And asking for one row that meets a condition is filtering
by it and asking for one row. -/
theorem merged_or_regrouped (e : Expr) (m : ColumnMap) (worksheet x : String) (p : Expr)
    (ps : List Expr) :
    let split := ofExpr (e.filtered x (p :: ps)) m worksheet
    let merged := ofExpr (e.filtered x [Expr.conjunction p ps]) m worksheet
    ((∃ fault fault', split = .error fault ∧ merged = .error fault') ∨
      ∃ base f, ∃ fs : List Filter, ofExpr e m worksheet = .ok base ∧ fs.length = ps.length ∧
        ((base.filter = none ∧ split = merged ∧
            split = .ok { base with filter := some (fs.foldl .and f) }) ∨
          ∃ earlier, base.filter = some earlier ∧
            split = .ok { base with filter := some (fs.foldl .and (.and earlier f)) } ∧
            merged = .ok { base with filter := some (.and earlier (fs.foldl .and f)) })) ∧
    (∀ s s', split = .ok s → merged = .ok s' → s.literals = s'.literals) ∧
    ∀ method ∈ ["first", "first_or_default"],
      (ofExpr (.call e method [.lambda x p]) m worksheet).toOption =
        (ofExpr (.call (e.filtered x [p]) method []) m worksheet).toOption := by
  intro split merged
  refine ⟨?_, ?_, ?_⟩
  · cases hsplit : split with
    | error fault =>
      left
      cases hmerged : merged with
      | error fault' => exact ⟨fault, fault', rfl, rfl⟩
      | ok s' =>
        obtain ⟨s, hs⟩ := split_of_merged hmerged
        cases hsplit.symm.trans hs
    | ok s =>
      right
      obtain ⟨base, f, fs, hbase, hlength, rfl, hmerged⟩ := merged_of_split hsplit
      have hmerged : merged = .ok (base.narrow (fs.foldl .and f)) := hmerged
      refine ⟨base, f, fs, hbase, hlength, ?_⟩
      rw [hmerged]
      cases hfilter : base.filter with
      | none =>
        left
        obtain ⟨hsame, hsame'⟩ := narrow_of_no_filter hfilter f fs
        rw [hsame, hsame']
        exact ⟨rfl, rfl, rfl⟩
      | some earlier =>
        right
        obtain ⟨hcalls, hwhole⟩ := narrow_of_filter hfilter f fs
        rw [hcalls, hwhole]
        exact ⟨earlier, rfl, rfl, rfl⟩
  · intro s s' hsplit hmerged
    obtain ⟨base, f, fs, -, -, rfl, hmerged'⟩ := merged_of_split hsplit
    have hs' : s' = base.narrow (fs.foldl .and f) := Except.ok.inj (hmerged.symm.trans hmerged')
    rw [hs']
    exact literals_foldl_narrow f fs
  · intro method hmethod
    obtain ⟨cardinality, hcardinality⟩ := first?_of_mem hmethod
    exact toOption_ofExpr_congr fun s n => drafts_firstWhere hcardinality

/-- A column alone, a comparison and a text test. The column alone binds a constant before the
comparison does. -/
theorem merged_or_regrouped_flags :
    let field (name : String) : Expr := .member (.parameter "x") name
    let adult : Expr := .binary .gt (field "age") (.ofValue (.integer 17))
    let named : Expr := .call (field "name") "contains" [.ofValue (.text "b")]
    let e : Expr := .source .dynamic
    let s : Selection :=
      { worksheet := "S"
        filter := some (.and (.and
          (.comparison "active" .eq (.literal ⟨.boolean true, .boolean, 0⟩))
          (.comparison "age" .gt (.literal ⟨.integer 17, .integer, 1⟩)))
          (.contains "name" ⟨.text "b", .text, 2⟩)) }
    Selection.ofExpr (e.filtered "x" [field "active", adult, named]) .empty "S" = .ok s ∧
      Selection.ofExpr (e.filtered "x" [Expr.conjunction (field "active") [adult, named]]) .empty
        "S" = .ok s ∧
      ∃ one, Selection.ofExpr (.call e "first" [.lambda "x" named]) .empty "S" = .ok one ∧
        Selection.ofExpr (.call (e.filtered "x" [named]) "first" []) .empty "S" = .ok one := by
  intro field adult named e s
  have hsplit : Selection.ofExpr (e.filtered "x" [field "active", adult, named]) .empty "S" =
      .ok s := eq_ok_of_toOption (by decide +kernel)
  have hbase : Selection.ofExpr e .empty "S" = .ok { worksheet := "S" } := rfl
  obtain ⟨hmerged, -, -⟩ :=
    merged_or_regrouped e .empty "S" "x" (field "active") [adult, named]
  obtain ⟨-, -, hfirst⟩ := merged_or_regrouped e .empty "S" "x" named []
  refine ⟨hsplit, ?_, ?_⟩
  · rcases hmerged with ⟨fault, -, hfault, -⟩ | ⟨base, f, fs, he, -, h⟩
    · rw [hsplit] at hfault
      cases hfault
    · rcases h with ⟨-, hsame, -⟩ | ⟨earlier, hearlier, -⟩
      · exact hsame.symm.trans hsplit
      · rw [hbase] at he
        cases he
        cases hearlier
  · have hone : ∃ one, Selection.ofExpr (.call e "first" [.lambda "x" named]) .empty "S" =
        .ok one := ⟨_, rfl⟩
    obtain ⟨one, hone⟩ := hone
    have hsame := hfirst "first" List.mem_cons_self
    rw [hone] at hsame
    exact ⟨one, hone, eq_ok_of_toOption hsame.symm⟩

/-- Behind an earlier condition two calls and their conjunction select by different conditions. -/
theorem conjunction_regrouped :
    let null (name : String) : Expr := .binary .eq (.member (.parameter "x") name) .null
    let e : Expr := (Expr.source .dynamic).filtered "x" [null "a"]
    let selection (f : Filter) : Selection := { worksheet := "S", filter := some f }
    let split := selection (.and (.and (.isNull "a") (.isNull "b")) (.isNull "c"))
    let merged := selection (.and (.isNull "a") (.and (.isNull "b") (.isNull "c")))
    Selection.ofExpr (e.filtered "x" [null "b", null "c"]) .empty "S" = .ok split ∧
      Selection.ofExpr (e.filtered "x" [Expr.conjunction (null "b") [null "c"]]) .empty "S" =
        .ok merged ∧
      split ≠ merged := by
  intro null e selection split merged
  exact ⟨eq_ok_of_toOption (by decide +kernel), eq_ok_of_toOption (by decide +kernel),
    by decide⟩

end WorkbookQuery
