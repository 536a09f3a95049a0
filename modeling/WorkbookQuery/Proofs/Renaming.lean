/-
  Columns read through a map. A map decides how the columns of a selection are headed, and
  nothing else: whatever compiles through a map compiles without one, with the same fault where
  it does not compile, and the selection is the one without the map, each of its columns put
  in place of the property of that name (`compiled_through_map`). The map is applied once to every
  column, whether it is tested, compared with, ordered by or read; the columns of a record keep
  the names that they have in the result.
-/
import WorkbookQuery.Proofs.Execution

namespace WorkbookQuery

/-! ## Steps that differ in what they yield -/

section Steps

variable {α α' β β' : Type}

/-- Two steps that differ in what they yield, one after the other. -/
theorem bind_eq_map {x : Except Fault α} {x' : Except Fault α'} {f : α → α'}
    {k : α → Except Fault β} {k' : α' → Except Fault β'} {g : β → β'} (hx : x' = x.map f)
    (hk : ∀ a, x = .ok a → k' (f a) = (k a).map g) : (x' >>= k') = (x >>= k).map g := by
  rw [hx]
  cases x with
  | ok a => exact hk a rfl
  | error fault => rfl

/-- The same step, with something done to what it yields. -/
theorem bind_same {x : Except Fault α} {k : α → Except Fault β} {k' : α → Except Fault β'}
    {g : β → β'} (hk : ∀ a, x = .ok a → k' a = (k a).map g) :
    (x >>= k') = (x >>= k).map g := by
  cases x with
  | ok a => exact hk a rfl
  | error fault => rfl

/-- A step that rejects in the same cases. -/
theorem guard_map {node : Expr} {c : Prop} [Decidable c] {x : Except Fault β}
    {y : Except Fault β'} {g : β → β'} (h : ¬ c → y = x.map g) :
    (if c then (node.reject : Except Fault Unit) >>= fun _ => y else y) =
      (if c then (node.reject : Except Fault Unit) >>= fun _ => x else x).map g := by
  split
  · rfl
  · next hc => exact h hc

end Steps

/-! ## Columns in place of others -/

namespace Operand

def rename (g : String → String) : Operand → Operand
  | .literal l => .literal l
  | .column c => .column (g c)

end Operand

namespace Filter

/-- The same condition on other columns. -/
def rename (g : String → String) : Filter → Filter
  | .comparison column op operand => .comparison (g column) op (operand.rename g)
  | .and left right => .and (left.rename g) (right.rename g)
  | .or left right => .or (left.rename g) (right.rename g)
  | .not inner => .not (inner.rename g)
  | .contains column part => .contains (g column) part
  | .startsWith column start => .startsWith (g column) start
  | .endsWith column ending => .endsWith (g column) ending
  | .isNull column => .isNull (g column)
  | .isNotNull column => .isNotNull (g column)

/-- Constants and their numbers stay as they are. -/
theorem literals_rename (g : String → String) (f : Filter) :
    (f.rename g).literals = f.literals := by
  induction f with
  | comparison column op operand => cases operand <;> rfl
  | and left right ihl ihr | or left right ihl ihr => rw [rename, literals, literals, ihl, ihr]
  | not inner ih => exact ih
  | contains | startsWith | endsWith | isNull | isNotNull => rfl

end Filter

namespace Term

def rename (g : String → String) : Term → Term
  | .column c => .column (g c)
  | .literal l => .literal l
  | .filter f => .filter (f.rename g)

variable {g : String → String} {node : Expr} {n : Nat}

/-! ## Bodies -/

theorem asColumn_rename (t : Term) :
    (t.rename g).asColumn node = (t.asColumn node).map g := by
  cases t <;> rfl

theorem asFilter_rename (t : Term) :
    (t.rename g).asFilter node n = (t.asFilter node n).map (Prod.map (Filter.rename g) id) := by
  cases t <;> rfl

theorem compareColumn_rename (c : String) (op : Comparison) (t : Term) :
    compareColumn node (g c) op n (t.rename g) =
      (compareColumn node c op n t).map (Prod.map (rename g) id) := by
  cases t with
  | column other | filter f => rfl
  | literal l =>
    unfold compareColumn
    rw [rename]
    dsimp only
    split
    · cases op <;> rfl
    · rfl

theorem compare_rename (op : Comparison) (l r : Term) :
    compare node op n (l.rename g) (r.rename g) =
      (compare node op n l r).map (Prod.map (rename g) id) := by
  cases l with
  | column c => exact compareColumn_rename c op r
  | literal l =>
    cases r with
    | column c => exact compareColumn_rename c op.mirrored (.literal l)
    | literal l' | filter f => rfl
  | filter f => rfl

theorem negate_rename (t : Term) : (t.rename g).negate node = (t.negate node).map (rename g) := by
  cases t with
  | column c | filter f => rfl
  | literal l =>
    obtain ⟨value, type⟩ := l
    cases value with
    | integer i =>
      unfold negate
      rw [rename]
      dsimp only
      split <;> rfl
    | null | boolean | float | text | dateTime | date => rfl

theorem convert_rename (type : ScalarType) (t : Term) :
    (t.rename g).convert node type = (t.convert node type).map (rename g) := by
  cases t with
  | column c | filter f => rfl
  | literal l =>
    unfold convert
    rw [rename]
    dsimp only
    split <;> rfl

/-- A test of another column looks for the same text. -/
theorem textTest?_rename {method : String} {test : String → BoundLiteral → Filter}
    (h : textTest? method = some test) (c : String) (l : BoundLiteral) :
    (test c l).rename g = test (g c) l := by
  obtain ⟨-, rfl⟩ | ⟨-, rfl⟩ | ⟨-, rfl⟩ := textTest?_cases h <;> rfl

theorem testText_rename {test : String → BoundLiteral → Filter}
    (htest : ∀ c l, (test c l).rename g = test (g c) l) (c : String) (t : Term) :
    (t.rename g).testText node test (g c) n =
      (t.testText node test c n).map (Prod.map (rename g) id) := by
  cases t with
  | column c | filter f => rfl
  | literal l =>
    unfold testText
    rw [rename]
    dsimp only
    split
    · rfl
    · apply bind_same
      intro l' _
      exact congrArg (fun f => Except.ok (Term.filter f, n + 1)) (htest c _).symm

theorem connective?_rename {op : BinaryOp} {connective : Filter → Filter → Filter}
    (h : connective? op = some connective) (f f' : Filter) :
    (connective f f').rename g = connective (f.rename g) (f'.rename g) := by
  cases op <;> cases h <;> rfl

variable {m : ColumnMap} {p : String}

/-- What a body stands for through a map is what it stands for without one, on the columns that
the map gives, by induction along the function. -/
theorem ofExpr_rename (e : Expr) (n : Nat) :
    ofExpr m p e n = (ofExpr .empty p e n).map (Prod.map (rename m.resolve) id) := by
  induction e, n using ofExpr.induct p with
  | case1 target name n hp | case3 target key n hp =>
    rw [ofExpr, ofExpr, if_pos hp, if_pos hp]
    rfl
  | case2 target name n hp | case4 target key n hp =>
    rw [ofExpr, ofExpr, if_neg hp, if_neg hp]
    rfl
  | case5 l n =>
    rw [ofExpr, ofExpr]
    rfl
  | case6 target method args n hm ih =>
    rw [ofExpr, ofExpr, if_pos hm, if_pos hm]
    apply bind_eq_map ih
    rintro ⟨t, n⟩ _
    exact bind_eq_map (asColumn_rename t) fun _ _ => rfl
  | case7 target method args n hm test htest ih iharg =>
    rw [ofExpr, ofExpr, if_neg hm, if_neg hm, htest]
    apply bind_eq_map ih
    rintro ⟨t, n⟩ _
    apply bind_eq_map (asColumn_rename t)
    intro c _
    dsimp only [Prod.map, id]
    split
    · next arg =>
      apply bind_eq_map (iharg n)
      rintro ⟨t, n⟩ _
      exact testText_rename (textTest?_rename htest) c t
    · rfl
  | case8 target method args n hm htest =>
    rw [ofExpr, ofExpr, if_neg hm, if_neg hm, htest]
    rfl
  | case9 op left right n c hc ihl ihr =>
    rw [ofExpr, ofExpr, hc]
    apply bind_eq_map ihl
    rintro ⟨l, n⟩ _
    apply bind_eq_map (ihr n)
    rintro ⟨r, n⟩ _
    exact compare_rename c l r
  | case10 op left right n connective hop hc ihl ihr =>
    rw [ofExpr, ofExpr, hc, hop]
    apply bind_eq_map ihl
    rintro ⟨l, n⟩ _
    apply bind_eq_map (asFilter_rename l)
    rintro ⟨f, n⟩ _
    apply bind_eq_map (ihr n)
    rintro ⟨r, n⟩ _
    apply bind_eq_map (asFilter_rename r)
    rintro ⟨f', n⟩ _
    exact congrArg (fun f => Except.ok (Term.filter f, n)) (connective?_rename hop f f').symm
  | case11 op left right n hop hc =>
    rw [ofExpr, ofExpr, hc, hop]
    rfl
  | case12 operand n ih =>
    rw [ofExpr, ofExpr]
    apply bind_eq_map ih
    rintro ⟨t, n⟩ _
    cases t <;> rfl
  | case13 operand n ih =>
    rw [ofExpr, ofExpr]
    apply bind_eq_map ih
    rintro ⟨t, n⟩ _
    exact bind_eq_map (negate_rename t) fun _ _ => rfl
  | case14 type operand n ih =>
    rw [ofExpr, ofExpr]
    apply bind_eq_map ih
    rintro ⟨t, n⟩ _
    exact bind_eq_map (convert_rename type t) fun _ _ => rfl
  | case15 e n hmember hindex hconstant hcall hbinary hnot hnegate hconvert =>
    rw [ofExpr, ofExpr]
    · rfl
    all_goals assumption

theorem columnOfExpr_rename (e : Expr) (n : Nat) :
    columnOfExpr m p e n = (columnOfExpr .empty p e n).map (Prod.map m.resolve id) := by
  apply bind_eq_map (ofExpr_rename e n)
  rintro ⟨t, n⟩ _
  exact bind_eq_map (asColumn_rename t) fun _ _ => rfl

theorem filterOfExpr_rename (e : Expr) (n : Nat) :
    filterOfExpr m p e n =
      (filterOfExpr .empty p e n).map (Prod.map (Filter.rename m.resolve) id) := by
  apply bind_eq_map (ofExpr_rename e n)
  rintro ⟨t, n⟩ _
  exact asFilter_rename t

end Term

/-- The other column. A column of a record keeps the name that it has in the result, and needs
a name of its own only where the column is headed otherwise. -/
def ProjectedColumn.rename (g : String → String) (ofRecord : Bool) (c : ProjectedColumn) :
    ProjectedColumn :=
  let name := c.alias?.getD c.column
  ⟨g c.column, if ofRecord then if name = g c.column then none else some name else c.alias?⟩

def Projection.rename (g : String → String) (ofRecord : Bool) : Projection → Projection
  | .all => .all
  | .columns cs => .columns (cs.map (ProjectedColumn.rename g ofRecord))

namespace Selection

/-- The selection with other columns in place of its own. -/
def rename (g : String → String) (ofRecord : Bool) (s : Selection) : Selection :=
  { s with
    projection := s.projection.rename g ofRecord
    filter := s.filter.map (Filter.rename g)
    ordering := s.ordering.map fun k => { k with column := g k.column } }

variable {g : String → String} {ofRecord : Bool} {m : ColumnMap} {s : Selection} {n : Nat}
  {node : Expr} {args : List Expr}

theorem isProjected_rename : (s.rename g ofRecord).isProjected = s.isProjected := by
  unfold isProjected rename
  dsimp only
  cases s.projection <;> rfl

theorem literals_rename : (s.rename g ofRecord).literals = s.literals := by
  unfold literals rename
  cases s.filter with
  | none => rfl
  | some f => exact f.literals_rename g

theorem narrow_rename (f : Filter) :
    (s.rename g ofRecord).narrow (f.rename g) = (s.narrow f).rename g ofRecord := by
  unfold narrow rename
  cases s.filter <;> rfl

/-! ## Calls -/

theorem addFilter_rename :
    (s.rename m.resolve ofRecord).addFilter m node args n =
      (s.addFilter .empty node args n).map (Prod.map (rename m.resolve ofRecord) id) := by
  apply bind_same
  rintro ⟨p, body⟩ _
  dsimp only
  rw [isProjected_rename]
  apply guard_map
  intro _
  apply bind_eq_map (Term.filterOfExpr_rename body n)
  rintro ⟨f, n⟩ _
  exact congrArg (fun s => Except.ok (s, n)) (narrow_rename f)

theorem addOrdering_rename (direction : Direction) (continued : Bool) :
    (s.rename m.resolve ofRecord).addOrdering m direction continued node args n =
      (s.addOrdering .empty direction continued node args n).map
        (Prod.map (rename m.resolve ofRecord) id) := by
  have hordering : (s.rename m.resolve ofRecord).ordering.isEmpty = s.ordering.isEmpty :=
    List.isEmpty_map
  apply bind_same
  rintro ⟨p, body⟩ _
  apply bind_eq_map (Term.columnOfExpr_rename body n)
  rintro ⟨c, n⟩ _
  dsimp only [Prod.map, id]
  rw [isProjected_rename, hordering]
  apply guard_map
  intro _
  simp [rename, Except.map, pure, Except.pure]

theorem takeFirst_rename (cardinality : Cardinality) :
    (s.rename m.resolve ofRecord).takeFirst m cardinality node args n =
      (s.takeFirst .empty cardinality node args n).map
        (Prod.map (rename m.resolve ofRecord) id) := by
  unfold takeFirst
  split
  · rfl
  · exact bind_eq_map addFilter_rename fun _ _ => rfl

/-- The columns of a record keep the names of its fields. -/
theorem fieldColumns_rename (p : String) (fields : List (String × Expr)) (n : Nat) :
    fieldColumns m p fields n = (fieldColumns .empty p fields n).map
      (Prod.map (List.map (ProjectedColumn.rename m.resolve true)) id) := by
  induction fields generalizing n with
  | nil => rfl
  | cons field fields ih =>
    obtain ⟨name, e⟩ := field
    apply bind_eq_map (Term.columnOfExpr_rename e n)
    rintro ⟨c, n⟩ _
    apply bind_eq_map (ih n)
    rintro ⟨columns, n⟩ _
    have hname : (if name = c then none else some name).getD c = name := by
      split
      · next h => exact h.symm
      · rfl
    simp [ProjectedColumn.rename, hname, Except.map, pure, Except.pure]

/-- Of a worksheet's columns nothing is named. -/
theorem rename_of_not_isProjected (h : s.isProjected = false) (ofRecord' : Bool) :
    s.rename g ofRecord = s.rename g ofRecord' := by
  unfold isProjected at h
  unfold rename
  cases hp : s.projection with
  | all => rfl
  | columns cs =>
    rw [hp] at h
    cases h

/-- The columns that a call reads are named if it reads a record, and only then. -/
theorem project_rename {earlier : Bool}
    (hrecord : ∀ p fields, args = [.lambda p (.record fields)] → ofRecord = true)
    (hcolumn : s.isProjected = false → ofRecord = true →
      ∃ p fields, args = [.lambda p (.record fields)]) :
    (s.rename m.resolve earlier).project m node args n =
      (s.project .empty node args n).map (Prod.map (rename m.resolve ofRecord) id) := by
  apply bind_same
  rintro ⟨p, body⟩ hlambda
  have hargs : args = [.lambda p body] := Expr.soleLambda_eq_ok.mp hlambda
  dsimp only
  rw [isProjected_rename]
  apply guard_map
  intro hprojected
  have hs : s.isProjected = false := Bool.eq_false_iff.mpr hprojected
  split
  · -- the identity
    rw [rename_of_not_isProjected hs ofRecord]
    rfl
  · split
    · next fields _ =>
      have hnamed : ofRecord = true := hrecord p fields hargs
      subst hnamed
      apply bind_eq_map (fieldColumns_rename p fields n)
      rintro ⟨columns, n⟩ _
      rfl
    · next hbody =>
      have hunnamed : ofRecord = false := by
        apply Bool.eq_false_iff.mpr
        intro h
        obtain ⟨p', fields, hfields⟩ := hcolumn hs h
        rw [hargs] at hfields
        cases hfields
        exact hbody fields rfl
      subst hunnamed
      apply bind_eq_map (Term.columnOfExpr_rename body n)
      rintro ⟨c, n⟩ _
      rfl

/-- What a call does through a map it does without one, on the columns that the map gives. -/
theorem applyCall_rename {target : Expr} {method : String}
    (h : s.isProjected = false → target.recordNames? = none) :
    (s.rename m.resolve target.recordNames?.isSome).applyCall m node method args n =
      (s.applyCall .empty node method args n).map
        (Prod.map (rename m.resolve (Expr.call target method args).recordNames?.isSome) id) := by
  by_cases hmethod : method = "select"
  · subst hmethod
    apply project_rename
    · intro p fields hargs
      rw [hargs]
      rfl
    · intro hs hnamed
      unfold Expr.recordNames? at hnamed
      split at hnamed
      · exact ⟨_, _, rfl⟩
      · rw [h hs] at hnamed
        cases hnamed
  · have hnames : (Expr.call target method args).recordNames? = target.recordNames? := by
      rw [Expr.recordNames?]
      intro p fields h
      exact absurd h hmethod
    rw [hnames]
    unfold applyCall
    split
    · exact addFilter_rename
    · exact addOrdering_rename _ _
    · exact addOrdering_rename _ _
    · exact addOrdering_rename _ _
    · exact addOrdering_rename _ _
    · exact bind_same fun _ _ => rfl
    · exact takeFirst_rename _
    · exact takeFirst_rename _
    · exact absurd rfl hmethod
    · split <;> rfl
    · rfl

/-! ## Chains -/

/-- So does a chain, by induction on its calls. -/
theorem draft_rename (m : ColumnMap) (worksheet : String) (e : Expr) :
    draft m worksheet e = (draft .empty worksheet e).map
      (Prod.map (rename m.resolve e.recordNames?.isSome) id) := by
  induction e using draft.induct with
  | case1 element => rfl
  | case2 target method args ih =>
    apply bind_eq_map ih
    rintro ⟨s, n⟩ hs
    apply applyCall_rename
    intro hprojected
    -- a record that was read before leaves the selection projected
    have hdrafts := draft_eq_ok.mp hs
    apply Option.eq_none_iff_forall_not_mem.mpr
    intro names hnames
    have hheads := hdrafts.heads hnames
    rw [hheads.isProjected] at hprojected
    cases hprojected
  | case3 e hsource hcall =>
    rw [draft, draft]
    · rfl
    all_goals assumption

/-- The names that the columns of a selection have in its result, if it reads some only. -/
def outputNames (s : Selection) : Option (List String) :=
  match s.projection with
  | .all => none
  | .columns cs => some (cs.map fun c => c.alias?.getD c.column)

theorem Heads.outputNames {names : List String} (h : s.Heads names) :
    s.outputNames = some names := by
  obtain ⟨columns, hcolumns, hnames⟩ := h
  rw [Selection.outputNames, hcolumns, ← hnames]

theorem ofExpr_rename (e : Expr) (m : ColumnMap) (worksheet : String) :
    ofExpr e m worksheet = (ofExpr e .empty worksheet).map
      (rename m.resolve e.recordNames?.isSome) := by
  apply bind_eq_map (draft_rename m worksheet e)
  rintro ⟨s, n⟩ _
  rfl

end Selection

/-- To compile through a map is to compile without one and to put the columns that the map
gives in place of the selection's own: the condition's, those it compares with, those of the
order and those that are read. A fault stays the same fault. The constants and their numbers
stay as they are, and the columns of a record keep the names of its fields. -/
theorem compiled_through_map (e : Expr) (m : ColumnMap) (worksheet : String) :
    Selection.ofExpr e m worksheet = (Selection.ofExpr e .empty worksheet).map
      (Selection.rename m.resolve e.recordNames?.isSome) ∧
    ∀ s s', Selection.ofExpr e .empty worksheet = .ok s → Selection.ofExpr e m worksheet = .ok s' →
      s'.literals = s.literals ∧
      ∀ names, e.recordNames? = some names →
        s.outputNames = some names ∧ s'.outputNames = some names := by
  have hrename := Selection.ofExpr_rename e m worksheet
  refine ⟨hrename, ?_⟩
  intro s s' hs hs'
  constructor
  · rw [hrename, hs] at hs'
    rw [← Except.ok.inj hs']
    exact Selection.literals_rename
  · intro names hnames
    obtain ⟨n, hdrafts⟩ := Selection.ofExpr_eq_ok.mp hs
    obtain ⟨n', hdrafts'⟩ := Selection.ofExpr_eq_ok.mp hs'
    exact ⟨(hdrafts.heads hnames).outputNames, (hdrafts'.heads hnames).outputNames⟩

/-- Two columns in place of each other, compared, ordered by and read. Of the two columns of a
record that read the same one, now the other has the name of its column. -/
theorem compiled_through_map_swapped :
    let m := ColumnMap.ofList [("a", "b"), ("b", "a")]
    let x := Expr.parameter "x"
    let condition := Expr.binary .lt (.member x "a") (.index x "b")
    let fields := [("a", Expr.member x "a"), ("b", .member x "a")]
    let e : Expr := .call (.call (.call (.source .dynamic) "where" [.lambda "x" condition])
      "order_by" [.lambda "x" (.member x "b")]) "select" [.lambda "x" (.record fields)]
    let s : Selection :=
      { worksheet := "S"
        projection := .columns [⟨"a", none⟩, ⟨"a", some "b"⟩]
        filter := some (.comparison "a" .lt (.column "b"))
        ordering := [⟨"b", .ascending⟩] }
    let s' : Selection :=
      { worksheet := "S"
        projection := .columns [⟨"b", some "a"⟩, ⟨"b", none⟩]
        filter := some (.comparison "b" .lt (.column "a"))
        ordering := [⟨"a", .ascending⟩] }
    Selection.ofExpr e .empty "S" = .ok s ∧ Selection.ofExpr e m "S" = .ok s' ∧
      s'.literals = s.literals ∧ s.outputNames = some ["a", "b"] ∧
      s'.outputNames = some ["a", "b"] := by
  intro m x condition fields e s s'
  have hs : Selection.ofExpr e .empty "S" = .ok s := eq_ok_of_toOption (by decide +kernel)
  have hs' : Selection.ofExpr e m "S" = .ok s' := eq_ok_of_toOption (by decide +kernel)
  obtain ⟨hliterals, hnames⟩ := (compiled_through_map e m "S").2 s s' hs hs'
  exact ⟨hs, hs', hliterals, hnames ["a", "b"] rfl⟩

end WorkbookQuery
