/-
  The calls of a chain, one at a time. Each method asks for a form of its arguments
  (`WellFormed`), and a call of that form says at most one thing for each part of a selection:
  a condition, a key of the order, a projection, a limit, an element, a cardinality. A call
  applies to a selection exactly when it has its form and the selection leaves room for it
  (`Fits`), and then it adds what it says (`applies_of_fits`, `fits_of_applies`).
-/
import WorkbookQuery.Proofs.Grammar
import WorkbookQuery.Proofs.Chain

namespace WorkbookQuery

open Selection (ordering? first? Applies)

/-- One call of a chain. -/
structure Call where
  method : String
  args : List Expr

namespace Call

/-! ## Forms -/

/-- The call has the form that its method asks for. -/
inductive WellFormed : Call → Prop where
  | filter {p body} : Derives p .condition body → WellFormed ⟨"where", [.lambda p body]⟩
  | ordering {method order p body name} : ordering? method = some order →
      Derives p (.column name) body → WellFormed ⟨method, [.lambda p body]⟩
  | take {l k} : l.value.coerce .integer = .ok (.integer k) → 0 ≤ k.toInt →
      WellFormed ⟨"take", [.constant l]⟩
  | first {method cardinality} : first? method = some cardinality → WellFormed ⟨method, []⟩
  | firstWhere {method cardinality p body} : first? method = some cardinality →
      Derives p .condition body → WellFormed ⟨method, [.lambda p body]⟩
  | identity {p} : WellFormed ⟨"select", [.lambda p (.parameter p)]⟩
  | record {p fields} : (∀ field ∈ fields, ∃ name, Derives p (.column name) field.2) →
      WellFormed ⟨"select", [.lambda p (.record fields)]⟩
  | column {p body name} : Derives p (.column name) body →
      WellFormed ⟨"select", [.lambda p body]⟩
  | asRows : WellFormed ⟨"as_rows", []⟩

/-- The call carries a condition. -/
def Narrows (c : Call) : Prop :=
  c.method = "where" ∨ (∃ cardinality, first? c.method = some cardinality) ∧ c.args ≠ []

def Orders (c : Call) : Prop := ∃ order, ordering? c.method = some order

/-- The call continues an order. -/
def Continues (c : Call) : Prop := ∃ direction, ordering? c.method = some (direction, true)

def Limits (c : Call) : Prop :=
  c.method = "take" ∨ ∃ cardinality, first? c.method = some cardinality

def Selects (c : Call) : Prop := c.method = "select"

/-- The call selects something other than the whole row. -/
def Projects (c : Call) : Prop := c.Selects ∧ ∀ p, c.args ≠ [.lambda p (.parameter p)]

/-- The call has its form, and the selection leaves room for it. -/
structure Fits (c : Call) (s : Selection) : Prop where
  form : c.WellFormed
  room : c.Narrows ∨ c.Orders → s.IsOpen
  order : c.Continues → s.ordering ≠ []
  once : c.Selects → s.isProjected = false

/-! ## What a call says -/

/-- The lambda of a call that carries a condition. -/
def condition? (c : Call) : Option (String × Expr) :=
  match c.args with
  | [.lambda p body] =>
    if c.method = "where" ∨ (first? c.method).isSome then some (p, body) else none
  | _ => none

/-- The condition of a call, its constants numbered from `n`. -/
def filter? (m : ColumnMap) (n : Nat) (c : Call) : Option Filter :=
  c.condition?.bind fun (p, body) => (Term.filterOfExpr m p body n).toOption.map Prod.fst

def column? (m : ColumnMap) (p : String) (e : Expr) : Option String :=
  (Term.columnOfExpr m p e 0).toOption.map Prod.fst

def orderKey? (m : ColumnMap) (c : Call) : Option OrderKey :=
  match ordering? c.method, c.args with
  | some (direction, _), [.lambda p body] =>
    (column? m p body).map fun column => ⟨column, direction⟩
  | _, _ => none

/-- The column of a field. It has another name in the result when the field has. -/
def fieldColumn? (m : ColumnMap) (p : String) (field : String × Expr) : Option ProjectedColumn :=
  (column? m p field.2).map fun column =>
    ⟨column, if field.1 = column then none else some field.1⟩

def projection? (m : ColumnMap) (c : Call) : Option Projection :=
  match c.method, c.args with
  | "select", [.lambda p (.record fields)] =>
    some (.columns (fields.filterMap (fieldColumn? m p)))
  | "select", [.lambda p body] =>
    (column? m p body).map fun column => .columns [⟨column, none⟩]
  | _, _ => none

def limit? (c : Call) : Option Nat :=
  match c.method, c.args with
  | "take", [.constant l] =>
    match l.value.coerce .integer with
    | .ok (.integer k) => some k.toInt.toNat
    | _ => none
  | method, _ => (first? method).map fun _ => 1

def element? (m : ColumnMap) (c : Call) : Option Element :=
  if c.method = "as_rows" ∨ (c.projection? m).isSome then some .dynamic else none

/-- The selection with what the call says. -/
def after (m : ColumnMap) (c : Call) (s : Selection) : Selection where
  worksheet := s.worksheet
  projection := (c.projection? m).getD s.projection
  filter := match c.filter? m s.parameterCount with
    | some f => (s.narrow f).filter
    | none => s.filter
  ordering := s.ordering ++ (c.orderKey? m).toList
  limit := c.limit?.or s.limit
  element := (c.element? m).getD s.element
  cardinality := (first? c.method).getD s.cardinality

variable {m : ColumnMap} {c : Call}

theorem ordering?_cases {method : String} {order : Direction × Bool}
    (h : ordering? method = some order) : method = "order_by" ∨ method = "order_by_descending" ∨
      method = "then_by" ∨ method = "then_by_descending" := by
  unfold ordering? at h
  split at h
  · exact .inl rfl
  · exact .inr (.inl rfl)
  · exact .inr (.inr (.inl rfl))
  · exact .inr (.inr (.inr rfl))
  · cases h

theorem first?_cases {method : String} {cardinality : Cardinality}
    (h : first? method = some cardinality) : method = "first" ∨ method = "first_or_default" := by
  unfold first? at h
  split at h
  · exact .inl rfl
  · exact .inr rfl
  · cases h

theorem limit?_eq_none (h : c.WellFormed) : c.limit? = none ↔ ¬ c.Limits := by
  cases h with
  | filter | identity | record | column | asRows => simp [limit?, Limits, first?]
  | ordering hmethod =>
    rcases ordering?_cases hmethod with rfl | rfl | rfl | rfl <;> simp [limit?, Limits, first?]
  | take hl => simp [limit?, Limits, hl]
  | first hmethod | firstWhere hmethod =>
    rcases first?_cases hmethod with rfl | rfl <;> simp [limit?, Limits, first?]

theorem columnOfExpr_of_derives {p name : String} {e : Expr} (h : Derives p (.column name) e)
    (n : Nat) : Term.columnOfExpr m p e n = .ok (m.resolve name, n) :=
  Term.columnOfExpr_eq_ok.mpr (Term.ofExpr_of_reads (Term.stands_of_derives m h n))

theorem column?_of_derives {p name : String} {e : Expr} (h : Derives p (.column name) e) :
    column? m p e = some (m.resolve name) := by
  rw [column?, columnOfExpr_of_derives h]
  rfl

theorem orderKey?_of_ordering {method p name : String} {order : Direction × Bool} {body : Expr}
    (hmethod : ordering? method = some order) (h : Derives p (.column name) body) :
    orderKey? m ⟨method, [.lambda p body]⟩ = some ⟨m.resolve name, order.1⟩ := by
  simp only [orderKey?, hmethod, column?_of_derives h, Option.map_some]

theorem orderKey?_eq_none (h : c.WellFormed) : c.orderKey? m = none ↔ ¬ c.Orders := by
  cases h with
  | filter | take | identity | record | column | asRows => simp [orderKey?, Orders, ordering?]
  | @ordering method order p body name hmethod hbody =>
    have horders : Orders ⟨method, [.lambda p body]⟩ := ⟨order, hmethod⟩
    simp [orderKey?_of_ordering hmethod hbody, horders]
  | first hmethod | firstWhere hmethod =>
    rcases first?_cases hmethod with rfl | rfl <;> simp [orderKey?, Orders, ordering?]

theorem projection?_of_column {p name : String} {body : Expr}
    (h : Derives p (.column name) body) : projection? m ⟨"select", [.lambda p body]⟩ =
      some (.columns [⟨m.resolve name, none⟩]) := by
  have hbody := (Term.forms_of_columnOfExpr (columnOfExpr_of_derives (m := m) h 0)).2
  have hcolumn : projection? m ⟨"select", [.lambda p body]⟩ =
      (column? m p body).map fun column => .columns [⟨column, none⟩] := by
    cases body with
    | record fields => exact absurd rfl (hbody fields)
    | _ => rfl
  rw [hcolumn, column?_of_derives h]
  rfl

theorem projection?_eq_none (h : c.WellFormed) : c.projection? m = none ↔ ¬ c.Projects := by
  cases h with
  | filter | take | asRows => simp [projection?, Projects, Selects]
  | ordering hmethod hbody =>
    rcases ordering?_cases hmethod with rfl | rfl | rfl | rfl <;>
      simp [projection?, Projects, Selects]
  | first hmethod | firstWhere hmethod =>
    rcases first?_cases hmethod with rfl | rfl <;> simp [projection?, Projects, Selects]
  | @identity p =>
    have hnone : projection? m ⟨"select", [.lambda p (.parameter p)]⟩ = none := rfl
    simp [hnone, Projects]
  | record => simp [projection?, Projects, Selects]
  | @column p body name hbody =>
    have hown : ∀ q, [Expr.lambda p body] ≠ [.lambda q (.parameter q)] := by
      intro q hq
      cases hq
      cases hbody
    simp [projection?_of_column hbody, Projects, Selects, hown]

theorem projection?_ne_all : c.projection? m ≠ some .all := by
  intro h
  unfold projection? at h
  split at h
  · cases h
  · obtain ⟨_, -, h⟩ := Option.map_eq_some_iff.mp h
    cases h
  · cases h

/-! ## Calls with room -/

theorem filterOfExpr_of_derives (m : ColumnMap) {p : String} {body : Expr}
    (h : Derives p .condition body) (n : Nat) :
    ∃ f n', Term.filterOfExpr m p body n = .ok (f, n') := by
  obtain ⟨t, n₁, f, n', ht, hf⟩ := Term.stands_of_derives m h n
  exact ⟨f, n', bind_eq_ok.mpr ⟨_, Term.ofExpr_of_reads ht, Term.asFilter_eq_ok.mpr hf⟩⟩

theorem fieldColumns_of_derives {p : String} {fields : List (String × Expr)}
    (h : ∀ field ∈ fields, ∃ name, Derives p (.column name) field.2) (n : Nat) :
    Selection.fieldColumns m p fields n = .ok (fields.filterMap (fieldColumn? m p), n) := by
  induction fields with
  | nil => rfl
  | cons field fields ih =>
    obtain ⟨name, hname⟩ := h field List.mem_cons_self
    have hrest := ih fun field hfield => h field (List.mem_cons_of_mem _ hfield)
    have hfield : fieldColumn? m p field =
        some ⟨m.resolve name, if field.1 = m.resolve name then none else some field.1⟩ := by
      rw [fieldColumn?, column?_of_derives hname]
      rfl
    rw [Selection.fieldColumns, columnOfExpr_of_derives hname, ok_bind]
    dsimp only
    rw [hrest, List.filterMap_cons_some hfield]
    rfl

variable {s : Selection}

/-- What a call with a condition adds to it. -/
theorem after_of_condition {p : String} {body : Expr} {f : Filter} {n : Nat}
    (hc : c.condition? = some (p, body))
    (hf : Term.filterOfExpr m p body s.parameterCount = .ok (f, n)) (hk : c.orderKey? m = none) :
    c.after m s = { s.narrow f with
      projection := (c.projection? m).getD s.projection
      limit := c.limit?.or s.limit
      element := (c.element? m).getD s.element
      cardinality := (first? c.method).getD s.cardinality } := by
  have hfilter : c.filter? m s.parameterCount = some f := by
    rw [filter?, hc]
    exact congrArg (fun r => (Except.toOption r).map Prod.fst) hf
  rw [after, hfilter, hk, Option.toList_none, List.append_nil]
  rfl

theorem after_of_no_condition (hc : c.condition? = none) (hk : c.orderKey? m = none) :
    c.after m s = { s with
      projection := (c.projection? m).getD s.projection
      limit := c.limit?.or s.limit
      element := (c.element? m).getD s.element
      cardinality := (first? c.method).getD s.cardinality } := by
  have hfilter : c.filter? m s.parameterCount = none := by rw [filter?, hc, Option.bind_none]
  rw [after, hfilter, hk, Option.toList_none, List.append_nil]

/-- A call that fits applies, and adds what it says. -/
theorem applies_of_fits (m : ColumnMap) (h : c.Fits s) :
    ∃ n, Applies m c.method c.args s s.parameterCount (c.after m s) n := by
  obtain ⟨hform, hroom, horder, honce⟩ := h
  cases hform with
  | @filter p body hbody =>
    obtain ⟨f, n, hf⟩ := filterOfExpr_of_derives m hbody s.parameterCount
    have hafter : after m ⟨"where", [.lambda p body]⟩ s = s.narrow f :=
      after_of_condition rfl hf rfl
    rw [hafter]
    exact ⟨n, .filter (hroom (.inl (.inl rfl))) hf⟩
  | @ordering method order p body name hmethod hbody =>
    obtain ⟨direction, continued⟩ := order
    have hcolumn := columnOfExpr_of_derives (m := m) hbody s.parameterCount
    have hafter : after m ⟨method, [.lambda p body]⟩ s =
        { s with ordering := s.ordering ++ [⟨m.resolve name, direction⟩] } := by
      rw [after, orderKey?_of_ordering hmethod hbody]
      rcases ordering?_cases hmethod with rfl | rfl | rfl | rfl <;> rfl
    rw [hafter]
    refine ⟨_, .ordering hmethod (hroom (.inr ⟨_, hmethod⟩)) ?_ hcolumn⟩
    rintro rfl
    exact horder ⟨direction, hmethod⟩
  | @take l k hl hk =>
    have hlimit : limit? ⟨"take", [.constant l]⟩ = some k.toInt.toNat := by
      simp only [limit?, hl]
    have hafter : after m ⟨"take", [.constant l]⟩ s = { s with limit := some k.toInt.toNat } := by
      rw [after_of_no_condition rfl rfl, hlimit]
      rfl
    rw [hafter]
    exact ⟨_, .take hl hk⟩
  | @first method cardinality hmethod =>
    have hafter : after m ⟨method, []⟩ s = { s with limit := some 1, cardinality } := by
      rcases first?_cases hmethod with rfl | rfl
      · cases hmethod
        exact after_of_no_condition rfl rfl
      · cases hmethod
        exact after_of_no_condition rfl rfl
    rw [hafter]
    exact ⟨_, .first hmethod⟩
  | @firstWhere method cardinality p body hmethod hbody =>
    obtain ⟨f, n, hf⟩ := filterOfExpr_of_derives m hbody s.parameterCount
    have hafter : after m ⟨method, [.lambda p body]⟩ s =
        { s.narrow f with limit := some 1, cardinality } := by
      rcases first?_cases hmethod with rfl | rfl
      · cases hmethod
        exact after_of_condition rfl hf rfl
      · cases hmethod
        exact after_of_condition rfl hf rfl
    rw [hafter]
    exact ⟨n, .firstWhere hmethod (hroom (.inl (.inr ⟨⟨_, hmethod⟩, by simp⟩))) hf⟩
  | @identity p =>
    have hafter : after m ⟨"select", [.lambda p (.parameter p)]⟩ s = s :=
      after_of_no_condition rfl rfl
    rw [hafter]
    exact ⟨_, .identity (honce rfl)⟩
  | @record p fields hfields =>
    have hafter : after m ⟨"select", [.lambda p (.record fields)]⟩ s =
        { s with
          projection := .columns (fields.filterMap (fieldColumn? m p))
          element := .dynamic } :=
      after_of_no_condition rfl rfl
    rw [hafter]
    exact ⟨_, .record (honce rfl) (fieldColumns_of_derives hfields s.parameterCount)⟩
  | @column p body name hbody =>
    have hprojection := projection?_of_column (m := m) hbody
    have helement : element? m ⟨"select", [.lambda p body]⟩ = some .dynamic := by
      rw [element?, hprojection]
      rfl
    have hafter : after m ⟨"select", [.lambda p body]⟩ s =
        { s with projection := .columns [⟨m.resolve name, none⟩], element := .dynamic } := by
      rw [after_of_no_condition rfl rfl, hprojection, helement]
      rfl
    rw [hafter]
    exact ⟨_, .column (honce rfl) (columnOfExpr_of_derives hbody s.parameterCount)⟩
  | asRows =>
    have hafter : after m ⟨"as_rows", []⟩ s = { s with element := .dynamic } :=
      after_of_no_condition rfl rfl
    rw [hafter]
    exact ⟨_, .asRows⟩

theorem derives_of_filterOfExpr {p : String} {body : Expr} {f : Filter} {n n' : Nat}
    (h : Term.filterOfExpr m p body n = .ok (f, n')) : Derives p .condition body := by
  obtain ⟨t, n₁, ht, hf⟩ := Term.reads_of_filterOfExpr h
  exact Term.derives_of_asFilter (Term.derived_of_reads ht) hf

theorem derives_of_columnOfExpr {p column : String} {body : Expr} {n n' : Nat}
    (h : Term.columnOfExpr m p body n = .ok (column, n')) :
    ∃ name, Derives p (.column name) body := by
  obtain ⟨name, hname, -⟩ := Term.derived_of_reads (Term.reads_of_columnOfExpr h)
  exact ⟨name, hname⟩

theorem derives_of_fieldColumns {p : String} {fields : List (String × Expr)}
    {columns : List ProjectedColumn} {n n' : Nat}
    (h : Selection.fieldColumns m p fields n = .ok (columns, n')) :
    ∀ field ∈ fields, ∃ name, Derives p (.column name) field.2 := by
  induction fields generalizing n columns n' with
  | nil => simp
  | cons field fields ih =>
    simp only [Selection.fieldColumns, bind_eq_ok, Prod.exists] at h
    obtain ⟨column, n₁, hcolumn, rest, n₂, hrest, -⟩ := h
    intro other hother
    rcases List.mem_cons.mp hother with rfl | hother
    · exact derives_of_columnOfExpr hcolumn
    · exact ih hrest other hother

/-- A call that applies fits. -/
theorem fits_of_applies {s' : Selection} {n n' : Nat}
    (h : Applies m c.method c.args s n s' n') : c.Fits s := by
  obtain ⟨method, args⟩ := c
  cases h with
  | filter hopen hf =>
    exact ⟨.filter (derives_of_filterOfExpr hf), fun _ => hopen,
      by simp [Continues, ordering?], by simp [Selects]⟩
  | @ordering _ direction continued _ _ _ _ _ _ hmethod hopen hcontinued hcolumn =>
    obtain ⟨name, hname⟩ := derives_of_columnOfExpr hcolumn
    refine ⟨.ordering hmethod hname, fun _ => hopen, ?_, ?_⟩
    · rintro ⟨direction', hdirection⟩
      rw [hmethod] at hdirection
      cases hdirection
      exact hcontinued rfl
    · rintro rfl
      cases hmethod
  | take hl hk =>
    exact ⟨.take hl hk, by simp [Narrows, Orders, ordering?, first?],
      by simp [Continues, ordering?], by simp [Selects]⟩
  | first hmethod =>
    refine ⟨.first hmethod, ?_, ?_, ?_⟩ <;>
      rcases first?_cases hmethod with rfl | rfl <;>
        simp [Narrows, Orders, Continues, Selects, ordering?]
  | firstWhere hmethod hopen hf =>
    refine ⟨.firstWhere hmethod (derives_of_filterOfExpr hf), fun _ => hopen, ?_, ?_⟩ <;>
      rcases first?_cases hmethod with rfl | rfl <;> simp [Continues, Selects, ordering?]
  | identity hs =>
    exact ⟨.identity, by simp [Narrows, Orders, ordering?, first?],
      by simp [Continues, ordering?], fun _ => hs⟩
  | record hs hcolumns =>
    exact ⟨.record (derives_of_fieldColumns hcolumns),
      by simp [Narrows, Orders, ordering?, first?], by simp [Continues, ordering?], fun _ => hs⟩
  | column hs hcolumn =>
    obtain ⟨name, hname⟩ := derives_of_columnOfExpr hcolumn
    exact ⟨.column hname, by simp [Narrows, Orders, ordering?, first?],
      by simp [Continues, ordering?], fun _ => hs⟩
  | asRows =>
    exact ⟨.asRows, by simp [Narrows, Orders, ordering?, first?],
      by simp [Continues, ordering?], by simp [Selects]⟩

/-- A call makes one selection of another. -/
theorem applies_unique {s₁ s₂ : Selection} {n n₁ n₂ : Nat}
    (h₁ : Applies m c.method c.args s n s₁ n₁) (h₂ : Applies m c.method c.args s n s₂ n₂) :
    s₁ = s₂ ∧ n₁ = n₂ := by
  have hok₁ := (@Selection.applyCall_eq_ok m .null c.args s s₁ n n₁ c.method).mpr h₁
  have hok₂ := (@Selection.applyCall_eq_ok m .null c.args s s₂ n n₂ c.method).mpr h₂
  rw [hok₁] at hok₂
  cases hok₂
  exact ⟨rfl, rfl⟩

end Call

end WorkbookQuery
