/-
  The language of chains, and what a chain selects. A chain compiles exactly when it is a source
  followed by calls that each have the form their method asks for (`WellFormed`) and that each
  come after calls which leave room for them (`Follows`): no condition and no order after a limit
  or a projection, no continued order without an order before it, no selection of any kind after
  a projection. What it selects is then said field by field by its calls (`selected`): the
  conditions in one conjunction, the orders in a row, and of limit, projection, element and
  cardinality the last one that was asked for (`ofExpr_eq_ok_iff_chained`).
-/
import Mathlib.Data.List.Induction
import WorkbookQuery.Proofs.Call
import WorkbookQuery.Proofs.Numbering

namespace WorkbookQuery

open Selection (first? Drafts)

namespace Call

/-! ## The language -/

/-- The calls on a source, one after the other. -/
def chain (element : Element) (calls : List Call) : Expr :=
  calls.foldl (fun e c => .call e c.method c.args) (.source element)

/-- The call may stand behind these calls. -/
structure Follows (c : Call) (before : List Call) : Prop where
  form : c.WellFormed
  room : c.Narrows ∨ c.Orders → ∀ b ∈ before, ¬ b.Limits ∧ ¬ b.Projects
  order : c.Continues → ∃ b ∈ before, b.Orders
  once : c.Selects → ∀ b ∈ before, ¬ b.Projects

/-- Every call may stand behind those before it. -/
def Chained (calls : List Call) : Prop :=
  ∀ before c after, calls = before ++ c :: after → c.Follows before

/-! ## What a chain selects -/

/-- The conditions of the calls, each numbered on from those before it. -/
def filters (m : ColumnMap) : Nat → List Call → List Filter
  | _, [] => []
  | n, c :: calls =>
    match c.filter? m n with
    | some f => f :: filters m (n + f.literals.length) calls
    | none => filters m n calls

/-- The conjunction of all the conditions, nested to the left. -/
def conjunction : List Filter → Option Filter
  | [] => none
  | f :: fs => some (fs.foldl .and f)

/-- What the last of the calls that say anything say. -/
def lastSome {α : Type} (part : Call → Option α) (calls : List Call) : Option α :=
  (calls.filterMap part).getLast?

/-- What the calls select from a worksheet. -/
def selected (m : ColumnMap) (worksheet : String) (element : Element) (calls : List Call) :
    Selection where
  worksheet := worksheet
  projection := (lastSome (projection? m) calls).getD .all
  filter := conjunction (filters m 0 calls)
  ordering := calls.filterMap (orderKey? m)
  limit := lastSome limit? calls
  element := (lastSome (element? m) calls).getD element
  cardinality := (lastSome (fun c => first? c.method) calls).getD .all

/-! ## One more call -/

variable {m : ColumnMap} {c : Call} {calls : List Call}

theorem chain_concat (element : Element) (calls : List Call) (c : Call) :
    chain element (calls ++ [c]) = .call (chain element calls) c.method c.args := by
  unfold chain
  rw [List.foldl_append]
  rfl

theorem chained_nil : Chained [] := by
  intro before c after h
  simp at h

theorem chained_concat : Chained (calls ++ [c]) ↔ Chained calls ∧ c.Follows calls := by
  constructor
  · intro h
    refine ⟨?_, h calls c [] rfl⟩
    intro before b after hcalls
    exact h before b (after ++ [c]) (by rw [hcalls, List.append_assoc]; rfl)
  · rintro ⟨hcalls, hc⟩ before b after hsplit
    -- the call that is split off is the last one or one of those before it
    rcases List.eq_nil_or_concat after with rfl | ⟨after', b', rfl⟩
    · obtain ⟨rfl, hb⟩ := List.append_inj' hsplit rfl
      cases hb
      exact hc
    · rw [List.concat_eq_append, ← List.cons_append, ← List.append_assoc] at hsplit
      obtain ⟨hinit, -⟩ := List.append_inj' hsplit rfl
      exact hcalls before b after' hinit

section lastSome

variable {α : Type} {part : Call → Option α}

theorem lastSome_concat : lastSome part (calls ++ [c]) = (part c).or (lastSome part calls) := by
  unfold lastSome
  rw [List.filterMap_append, List.getLast?_append]
  cases h : part c <;> simp [h]

theorem lastSome_eq_none : lastSome part calls = none ↔ ∀ b ∈ calls, part b = none := by
  unfold lastSome
  rw [List.getLast?_eq_none_iff, List.filterMap_eq_nil_iff]

end lastSome

theorem conjunction_concat (fs : List Filter) (f : Filter) :
    conjunction (fs ++ [f]) = some (match conjunction fs with
      | some earlier => .and earlier f
      | none => f) := by
  cases fs with
  | nil => rfl
  | cons g fs => simp [conjunction, List.foldl_append]

theorem literals_foldl_and (fs : List Filter) (g : Filter) :
    (fs.foldl Filter.and g).literals = g.literals ++ fs.flatMap Filter.literals := by
  induction fs generalizing g with
  | nil => simp
  | cons f fs ih =>
    rw [List.foldl_cons, ih, List.flatMap_cons, Filter.literals, List.append_assoc]

theorem literals_conjunction (fs : List Filter) :
    ((conjunction fs).map Filter.literals).getD [] = fs.flatMap Filter.literals := by
  cases fs with
  | nil => rfl
  | cons f fs => exact literals_foldl_and fs f

/-- The last condition is numbered on from all the others. -/
theorem filters_concat (n : Nat) : filters m n (calls ++ [c]) = filters m n calls ++
    (c.filter? m (n + ((filters m n calls).flatMap Filter.literals).length)).toList := by
  induction calls generalizing n with
  | nil =>
    simp only [List.nil_append, filters, List.flatMap_nil, List.length_nil, Nat.add_zero]
    cases c.filter? m n <;> rfl
  | cons b calls ih =>
    simp only [List.cons_append, filters]
    cases hb : b.filter? m n with
    | none => exact ih n
    | some f =>
      simp only [ih, List.cons_append, List.flatMap_cons, List.length_append, Nat.add_assoc]

theorem getD_or {α : Type} (a b : Option α) (d : α) : (a.or b).getD d = a.getD (b.getD d) := by
  cases a <;> rfl

theorem parameterCount_selected (worksheet : String) (element : Element) :
    (selected m worksheet element calls).parameterCount =
      ((filters m 0 calls).flatMap Filter.literals).length := by
  rw [← literals_conjunction]
  rfl

theorem selected_concat (worksheet : String) (element : Element) :
    selected m worksheet element (calls ++ [c]) =
      c.after m (selected m worksheet element calls) := by
  have hfilter : conjunction (filters m 0 (calls ++ [c])) =
      (c.after m (selected m worksheet element calls)).filter := by
    rw [filters_concat, Nat.zero_add, ← parameterCount_selected worksheet element]
    unfold after
    cases hf : c.filter? m (selected m worksheet element calls).parameterCount with
    | none => simp [selected]
    | some f =>
      rw [Option.toList_some, conjunction_concat]
      rfl
  have hordering : (calls ++ [c]).filterMap (orderKey? m) =
      calls.filterMap (orderKey? m) ++ (c.orderKey? m).toList := by
    rw [List.filterMap_append]
    cases h : c.orderKey? m <;> simp [h]
  unfold selected
  rw [hfilter, hordering]
  simp only [lastSome_concat, getD_or]
  rfl

/-! ## Room -/

theorem Chained.wellFormed (h : Chained calls) {b : Call} (hb : b ∈ calls) : b.WellFormed := by
  obtain ⟨before, after, rfl⟩ := List.append_of_mem hb
  exact (h before b after rfl).form

variable (worksheet : String) (element : Element)

theorem isProjected_selected : (selected m worksheet element calls).isProjected = false ↔
    ∀ b ∈ calls, b.projection? m = none := by
  rw [← lastSome_eq_none]
  have hselected : (selected m worksheet element calls).projection =
      (lastSome (projection? m) calls).getD .all := rfl
  unfold Selection.isProjected
  rw [hselected]
  cases h : lastSome (projection? m) calls with
  | none => simp
  | some p =>
    cases p with
    | columns columns => simp
    | all =>
      obtain ⟨b, -, hb⟩ := List.mem_filterMap.mp (List.mem_of_getLast? h)
      exact absurd hb projection?_ne_all

/-- A call may stand behind others exactly when it fits what they select. -/
theorem follows_iff_fits (h : Chained calls) :
    c.Follows calls ↔ c.Fits (selected m worksheet element calls) := by
  have hlimit : (selected m worksheet element calls).limit = none ↔ ∀ b ∈ calls, ¬ b.Limits :=
    lastSome_eq_none.trans (forall₂_congr fun b hb => limit?_eq_none (h.wellFormed hb))
  have hprojected : (selected m worksheet element calls).isProjected = false ↔
      ∀ b ∈ calls, ¬ b.Projects :=
    (isProjected_selected worksheet element).trans
      (forall₂_congr fun b hb => projection?_eq_none (h.wellFormed hb))
  have hordering : (selected m worksheet element calls).ordering = [] ↔
      ∀ b ∈ calls, ¬ b.Orders :=
    List.filterMap_eq_nil_iff.trans
      (forall₂_congr fun b hb => orderKey?_eq_none (h.wellFormed hb))
  have hopen : (selected m worksheet element calls).IsOpen ↔
      ∀ b ∈ calls, ¬ b.Limits ∧ ¬ b.Projects := by
    rw [Selection.IsOpen, hlimit, hprojected]
    exact ⟨fun h b hb => ⟨h.1 b hb, h.2 b hb⟩,
      fun h => ⟨fun b hb => (h b hb).1, fun b hb => (h b hb).2⟩⟩
  have horder : (selected m worksheet element calls).ordering ≠ [] ↔
      ∃ b ∈ calls, b.Orders := by
    rw [Ne, hordering]
    simp
  constructor
  · rintro ⟨hform, hroom, hcontinues, honce⟩
    exact ⟨hform, fun hc => hopen.mpr (hroom hc), fun hc => horder.mpr (hcontinues hc),
      fun hc => hprojected.mpr (honce hc)⟩
  · rintro ⟨hform, hroom, hcontinues, honce⟩
    exact ⟨hform, fun hc => hopen.mp (hroom hc), fun hc => horder.mp (hcontinues hc),
      fun hc => hprojected.mp (honce hc)⟩

/-! ## Chains -/

/-- What compiles is a chain, by induction on it: its last call fits what the others select. -/
theorem chain_of_drafts {e : Expr} {s : Selection} {n : Nat} (h : Drafts m worksheet e s n) :
    ∃ element calls, e = chain element calls ∧ Chained calls ∧
      s = selected m worksheet element calls := by
  induction h with
  | @source element => exact ⟨element, [], rfl, chained_nil, rfl⟩
  | @call target method args s s' n n' htarget hcall ih =>
    obtain ⟨element, calls, rfl, hcalls, rfl⟩ := ih
    let c : Call := ⟨method, args⟩
    have hfits : c.Fits (selected m worksheet element calls) := fits_of_applies hcall
    obtain ⟨k, happlies⟩ := applies_of_fits m hfits
    rw [htarget.counted.2] at happlies
    obtain ⟨rfl, -⟩ := applies_unique (c := c) hcall happlies
    have hfollows : c.Follows calls := (follows_iff_fits worksheet element hcalls).mpr hfits
    exact ⟨element, calls ++ [c], (chain_concat element calls c).symm,
      chained_concat.mpr ⟨hcalls, hfollows⟩, (selected_concat worksheet element).symm⟩

/-- A chain compiles, by induction on its calls from the last one. -/
theorem drafts_of_chained (hcalls : Chained calls) :
    ∃ n, Drafts m worksheet (chain element calls) (selected m worksheet element calls) n := by
  induction calls using List.reverseRecOn with
  | nil => exact ⟨0, .source⟩
  | append_singleton calls c ih =>
    obtain ⟨hinit, hfollows⟩ := chained_concat.mp hcalls
    obtain ⟨n, hdrafts⟩ := ih hinit
    have hfits := (follows_iff_fits (m := m) worksheet element hinit).mp hfollows
    obtain ⟨n', happlies⟩ := applies_of_fits m hfits
    rw [hdrafts.counted.2] at happlies
    rw [chain_concat, selected_concat]
    exact ⟨n', .call hdrafts happlies⟩

/-- An expression compiles exactly when it is a source followed by calls of the right form that
leave room for each other, and what it selects is what its calls say. -/
theorem ofExpr_eq_ok_iff_chained (e : Expr) (m : ColumnMap) (worksheet : String) (s : Selection) :
    Selection.ofExpr e m worksheet = .ok s ↔ ∃ element calls, e = chain element calls ∧
      Chained calls ∧ s = selected m worksheet element calls := by
  rw [Selection.ofExpr_eq_ok]
  constructor
  · rintro ⟨n, h⟩
    exact chain_of_drafts worksheet h
  · rintro ⟨element, calls, rfl, hcalls, rfl⟩
    exact drafts_of_chained worksheet element hcalls

end Call

end WorkbookQuery
