/-
  The parameters of lambdas are only names. However some lambdas of an expression call their
  parameters instead, the expression compiles to the same selection, or still does not compile;
  and in what compiles, a lambda's body has no parameter but the lambda's own and no lambda of its
  own (`parameters_are_names`). What is not claimed is that the faults agree: they show the text
  of an expression, and the names are in it.
-/
import WorkbookQuery.Proofs.Rejection

namespace WorkbookQuery

/-! ## Other names for parameters -/

namespace Expr

/-- The name is the name of a parameter somewhere in the expression, where it is used or where a
lambda introduces it. -/
def Names (e : Expr) (name : String) : Prop :=
  (Expr.parameter name).Within e ∨ ∃ body, (Expr.lambda name body).Within e

/-- What parameters are called inside a lambda that calls its parameter `x` now `y`. -/
def called (now : String → String) (x y : String) : String → String :=
  fun name => if name = x then y else now name

mutual

/-- The second expression is the first one after some of its lambdas have given their parameters
other names, here and in their bodies, where the new name did not occur before. The parameters
of the lambdas around are called what `now` says. -/
inductive Renamed : (String → String) → Expr → Expr → Prop where
  | source {now element} : Renamed now (.source element) (.source element)
  | call {now target target' method args args'} : Renamed now target target' →
      EachRenamed now args args' →
      Renamed now (.call target method args) (.call target' method args')
  | freeCall {now method args args'} : EachRenamed now args args' →
      Renamed now (.freeCall method args) (.freeCall method args')
  | lambda {now x y body body'} : y = x ∨ ¬ body.Names y → Renamed (called now x y) body body' →
      Renamed now (.lambda x body) (.lambda y body')
  | parameter {now name} : Renamed now (.parameter name) (.parameter (now name))
  | member {now target target' name} : Renamed now target target' →
      Renamed now (.member target name) (.member target' name)
  | index {now target target' key} : Renamed now target target' →
      Renamed now (.index target key) (.index target' key)
  | constant {now l} : Renamed now (.constant l) (.constant l)
  | binary {now op left left' right right'} : Renamed now left left' →
      Renamed now right right' → Renamed now (.binary op left right) (.binary op left' right')
  | unary {now op operand operand'} : Renamed now operand operand' →
      Renamed now (.unary op operand) (.unary op operand')
  | record {now fields fields'} : FieldsRenamed now fields fields' →
      Renamed now (.record fields) (.record fields')

inductive EachRenamed : (String → String) → List Expr → List Expr → Prop where
  | nil {now} : EachRenamed now [] []
  | cons {now e e' es es'} : Renamed now e e' → EachRenamed now es es' →
      EachRenamed now (e :: es) (e' :: es')

inductive FieldsRenamed :
    (String → String) → List (String × Expr) → List (String × Expr) → Prop where
  | nil {now} : FieldsRenamed now [] []
  | cons {now name e e' rest rest'} : Renamed now e e' → FieldsRenamed now rest rest' →
      FieldsRenamed now ((name, e) :: rest) ((name, e') :: rest')

end

/-- Of the parameters in the expression, `p` is the one that is called `q` now. -/
def TellsApart (now : String → String) (p q : String) (e : Expr) : Prop :=
  ∀ name, (Expr.parameter name).Within e → (now name = q ↔ name = p)

variable {now : String → String} {p q : String} {e e' part : Expr} {args args' : List Expr}

theorem TellsApart.within (h : TellsApart now p q e) (hpart : part.Within e) :
    TellsApart now p q part := fun name hname => h name (hname.trans hpart)

/-- A new name that did not occur tells the lambda's parameter from every other one. -/
theorem tellsApart_called (h : q = p ∨ ¬ e.Names q) : TellsApart (called id p q) p q e := by
  intro name hname
  unfold called
  by_cases hp : name = p
  · rw [if_pos hp]
    exact iff_of_true rfl hp
  · rw [if_neg hp]
    refine iff_of_false (fun hq : name = q => ?_) hp
    rcases h with rfl | h
    · exact hp hq
    · exact h (.inl (hq ▸ hname))

theorem isOwn_renamed (h : Renamed now e e') (hnames : TellsApart now p q e) :
    Term.isOwn q e' = Term.isOwn p e := by
  cases h with
  | @parameter _ name =>
    have hname : now name = q ↔ name = p := hnames name .refl
    rw [Term.isOwn, Term.isOwn, Bool.eq_iff_iff, beq_iff_eq, beq_iff_eq]
    exact hname
  | _ => rfl

theorem EachRenamed.isEmpty_eq (h : EachRenamed now args args') : args'.isEmpty = args.isEmpty := by
  cases h <;> rfl

end Expr

/-! ## Results up to the fault -/

section Alike

variable {α β : Type}

/-- Both steps fail, or both yield the same. -/
def Alike (x x' : Except Fault α) : Prop := x.toOption = x'.toOption

theorem alike_ok_iff {x x' : Except Fault α} (h : Alike x x') {a : α} :
    x' = .ok a ↔ x = .ok a := by
  unfold Alike at h
  constructor
  · rintro rfl
    exact eq_ok_of_toOption h
  · rintro rfl
    exact eq_ok_of_toOption h.symm

theorem Alike.bind {x x' : Except Fault α} {k k' : α → Except Fault β} (hx : Alike x x')
    (hk : ∀ a, x = .ok a → Alike (k a) (k' a)) : Alike (x >>= k) (x' >>= k') := by
  cases x with
  | ok a =>
    rw [(alike_ok_iff hx).mpr rfl]
    exact hk a rfl
  | error fault =>
    cases x' with
    | ok a => cases (alike_ok_iff hx).mp rfl
    | error fault' => rfl

/-- Steps that are taken in the same cases. -/
theorem Alike.guard {node node' : Expr} {c : Prop} [Decidable c] {x x' : Except Fault β}
    (h : Alike x x') :
    Alike (if c then (node.reject : Except Fault Unit) >>= fun _ => x else x)
      (if c then (node'.reject : Except Fault Unit) >>= fun _ => x' else x') := by
  split
  · rfl
  · exact h

end Alike

/-! ## Bodies -/

namespace Term

variable {node node' : Expr} {m : ColumnMap} {now : String → String} {p q : String} {n : Nat}

theorem asColumn_alike (t : Term) : Alike (t.asColumn node) (t.asColumn node') := by
  cases t <;> rfl

theorem asFilter_alike (t : Term) : Alike (t.asFilter node n) (t.asFilter node' n) := by
  cases t <;> rfl

theorem compareColumn_alike (c : String) (op : Comparison) (t : Term) :
    Alike (compareColumn node c op n t) (compareColumn node' c op n t) := by
  cases t with
  | column other | filter f => rfl
  | literal l =>
    unfold compareColumn
    dsimp only
    split
    · cases op <;> rfl
    · rfl

theorem compare_alike (op : Comparison) (l r : Term) :
    Alike (compare node op n l r) (compare node' op n l r) := by
  cases l with
  | column c => exact compareColumn_alike c op r
  | literal l =>
    cases r with
    | column c => exact compareColumn_alike c op.mirrored (.literal l)
    | literal l' | filter f => rfl
  | filter f => rfl

theorem negate_alike (t : Term) : Alike (t.negate node) (t.negate node') := by
  unfold negate
  split
  · split <;> rfl
  · rfl
  · rfl

theorem convert_alike (type : ScalarType) (t : Term) :
    Alike (t.convert node type) (t.convert node' type) := by
  cases t with
  | column c | filter f => rfl
  | literal l =>
    unfold convert
    dsimp only
    split <;> rfl

theorem testText_alike (test : String → BoundLiteral → Filter) (c : String) (t : Term) :
    Alike (t.testText node test c n) (t.testText node' test c n) := by
  cases t with
  | literal l =>
    unfold testText
    dsimp only
    split <;> rfl
  | column c | filter f => rfl

/-- What a body stands for does not depend on what its parameters are called, as long as the own
one is told from the others. By induction along the function: each part is read by itself. -/
theorem ofExpr_alike {e e' : Expr} (h : e.Renamed now e') (hnames : e.TellsApart now p q)
    (n : Nat) : Alike (ofExpr m p e n) (ofExpr m q e' n) := by
  induction e, n using ofExpr.induct p generalizing e' with
  | case1 target name n hp | case2 target name n hp =>
    cases h with | member htarget =>
    rw [ofExpr, ofExpr, Expr.isOwn_renamed htarget (hnames.within (.member .refl))]
    split <;> rfl
  | case3 target key n hp | case4 target key n hp =>
    cases h with | index htarget =>
    rw [ofExpr, ofExpr, Expr.isOwn_renamed htarget (hnames.within (.index .refl))]
    split <;> rfl
  | case5 l n =>
    cases h
    rfl
  | case6 target method args n hm ih =>
    cases h with | call htarget hargs =>
    rw [ofExpr, ofExpr, if_pos hm, if_pos (hargs.isEmpty_eq ▸ hm)]
    refine (ih htarget (hnames.within (.target .refl))).bind ?_
    rintro ⟨t, n⟩ _
    exact (asColumn_alike t).bind fun _ _ => rfl
  | case7 target method args n hm test htest ih iharg =>
    cases h with | call htarget hargs =>
    rw [ofExpr, ofExpr, if_neg hm, if_neg (hargs.isEmpty_eq ▸ hm), htest]
    refine (ih htarget (hnames.within (.target .refl))).bind ?_
    rintro ⟨t, n⟩ _
    refine (asColumn_alike t).bind fun c _ => ?_
    cases hargs with
    | nil => rfl
    | cons harg hrest =>
      cases hrest with
      | nil =>
        have hpart := hnames.within (.argument List.mem_cons_self .refl)
        refine (iharg n harg hpart).bind ?_
        rintro ⟨t, n⟩ _
        exact testText_alike test c t
      | cons => rfl
  | case8 target method args n hm htest =>
    cases h with | call htarget hargs =>
    rw [ofExpr, ofExpr, if_neg hm, if_neg (hargs.isEmpty_eq ▸ hm), htest]
    rfl
  | case9 op left right n c hc ihl ihr =>
    cases h with | binary hleft hright =>
    rw [ofExpr, ofExpr, hc]
    refine (ihl hleft (hnames.within (.left .refl))).bind ?_
    rintro ⟨l, n⟩ _
    refine (ihr n hright (hnames.within (.right .refl))).bind ?_
    rintro ⟨r, n⟩ _
    exact compare_alike c l r
  | case10 op left right n connective hop hc ihl ihr =>
    cases h with | binary hleft hright =>
    rw [ofExpr, ofExpr, hc, hop]
    refine (ihl hleft (hnames.within (.left .refl))).bind ?_
    rintro ⟨l, n⟩ _
    refine (asFilter_alike l).bind ?_
    rintro ⟨f, n⟩ _
    refine (ihr n hright (hnames.within (.right .refl))).bind ?_
    rintro ⟨r, n⟩ _
    exact (asFilter_alike r).bind fun _ _ => rfl
  | case11 op left right n hop hc =>
    cases h with | binary hleft hright =>
    rw [ofExpr, ofExpr, hc, hop]
    rfl
  | case12 operand n ih =>
    cases h with | unary hoperand =>
    rw [ofExpr, ofExpr]
    refine (ih hoperand (hnames.within (.operand .refl))).bind ?_
    rintro ⟨t, n⟩ _
    cases t <;> rfl
  | case13 operand n ih =>
    cases h with | unary hoperand =>
    rw [ofExpr, ofExpr]
    refine (ih hoperand (hnames.within (.operand .refl))).bind ?_
    rintro ⟨t, n⟩ _
    exact (negate_alike t).bind fun _ _ => rfl
  | case14 type operand n ih =>
    cases h with | unary hoperand =>
    rw [ofExpr, ofExpr]
    refine (ih hoperand (hnames.within (.operand .refl))).bind ?_
    rintro ⟨t, n⟩ _
    exact (convert_alike type t).bind fun _ _ => rfl
  | case15 e n hmember hindex hconstant hcall hbinary hnot hnegate hconvert =>
    -- the other forms are rejected under every name
    cases h with
    | source | freeCall | lambda | parameter | record => rfl
    | member => exact (hmember _ _ rfl).elim
    | index => exact (hindex _ _ rfl).elim
    | constant => exact (hconstant _ rfl).elim
    | call => exact (hcall _ _ _ rfl).elim
    | binary => exact (hbinary _ _ _ rfl).elim
    | @unary _ op operand =>
      cases op with
      | not => exact (hnot _ rfl).elim
      | negate => exact (hnegate _ rfl).elim
      | convert type => exact (hconvert _ _ rfl).elim

variable {e e' : Expr}

theorem columnOfExpr_alike (h : e.Renamed now e') (hnames : e.TellsApart now p q) (n : Nat) :
    Alike (columnOfExpr m p e n) (columnOfExpr m q e' n) := by
  refine (ofExpr_alike h hnames n).bind ?_
  rintro ⟨t, n⟩ _
  exact (asColumn_alike t).bind fun _ _ => rfl

theorem filterOfExpr_alike (h : e.Renamed now e') (hnames : e.TellsApart now p q) (n : Nat) :
    Alike (filterOfExpr m p e n) (filterOfExpr m q e' n) := by
  refine (ofExpr_alike h hnames n).bind ?_
  rintro ⟨t, n⟩ _
  exact asFilter_alike t

end Term

/-! ## Chains -/

namespace Expr

variable {node node' : Expr} {now : String → String} {args args' : List Expr}

/-- A step that goes on with the only lambda of a call, if that is what the call has. -/
theorem alike_soleLambda {β : Type} {k k' : String × Expr → Except Fault β}
    (h : EachRenamed id args args')
    (hk : ∀ p q body body', Renamed (called id p q) body body' →
      TellsApart (called id p q) p q body → Alike (k (p, body)) (k' (q, body'))) :
    Alike (node.soleLambda args >>= k) (node'.soleLambda args' >>= k') := by
  cases h with
  | nil => rfl
  | cons harg hrest =>
    cases hrest with
    | cons => cases harg <;> rfl
    | nil =>
      cases harg with
      | lambda hfresh hbody => exact hk _ _ _ _ hbody (tellsApart_called hfresh)
      | _ => rfl

theorem rowCount_alike (h : EachRenamed now args args') :
    Alike (node.rowCount args) (node'.rowCount args') := by
  cases h with
  | nil => rfl
  | cons harg hrest =>
    cases hrest with
    | cons => cases harg <;> rfl
    | nil =>
      cases harg with
      | constant =>
        unfold rowCount
        dsimp only
        split
        · split <;> rfl
        · rfl
      | _ => rfl

end Expr

namespace Selection

variable {m : ColumnMap} {node node' : Expr} {args args' : List Expr} {s : Selection} {n : Nat}

theorem fieldColumns_alike {now : String → String} {p q : String}
    {fields fields' : List (String × Expr)} (h : Expr.FieldsRenamed now fields fields')
    (hnames : ∀ field ∈ fields, field.2.TellsApart now p q) (n : Nat) :
    Alike (fieldColumns m p fields n) (fieldColumns m q fields' n) := by
  induction fields generalizing fields' n with
  | nil =>
    cases h
    rfl
  | cons field fields ih =>
    cases h with | cons hfield hrest =>
    have hcolumn := hnames _ List.mem_cons_self
    refine (Term.columnOfExpr_alike hfield hcolumn n).bind ?_
    rintro ⟨c, n⟩ _
    refine (ih hrest (fun f hf => hnames f (List.mem_cons_of_mem _ hf)) n).bind ?_
    rintro ⟨columns, n⟩ _
    rfl

theorem addFilter_alike (h : Expr.EachRenamed id args args') :
    Alike (s.addFilter m node args n) (s.addFilter m node' args' n) := by
  refine Expr.alike_soleLambda h fun p q body body' hbody hnames => Alike.guard ?_
  exact (Term.filterOfExpr_alike hbody hnames n).bind fun _ _ => rfl

theorem addOrdering_alike (direction : Direction) (continued : Bool)
    (h : Expr.EachRenamed id args args') :
    Alike (s.addOrdering m direction continued node args n)
      (s.addOrdering m direction continued node' args' n) := by
  refine Expr.alike_soleLambda h fun p q body body' hbody hnames => ?_
  exact (Term.columnOfExpr_alike hbody hnames n).bind fun _ _ => Alike.guard rfl

theorem takeFirst_alike (cardinality : Cardinality) (h : Expr.EachRenamed id args args') :
    Alike (s.takeFirst m cardinality node args n) (s.takeFirst m cardinality node' args' n) := by
  unfold takeFirst
  rw [h.isEmpty_eq]
  split
  · rfl
  · exact (addFilter_alike h).bind fun _ _ => rfl

/-- The whole row, a record and a column stay what they are under every name. -/
theorem project_alike (h : Expr.EachRenamed id args args') :
    Alike (s.project m node args n) (s.project m node' args' n) := by
  refine Expr.alike_soleLambda h fun p q body body' hbody hnames => Alike.guard ?_
  dsimp only
  rw [Expr.isOwn_renamed hbody hnames]
  split
  · rfl
  · have hcolumn := Term.columnOfExpr_alike (m := m) hbody hnames n
    cases hbody with
    | record hfields =>
      refine (fieldColumns_alike hfields (fun field hf => ?_) n).bind fun _ _ => rfl
      exact hnames.within (.field hf .refl)
    | _ => exact hcolumn.bind fun _ _ => rfl

theorem applyCall_alike {method : String} (h : Expr.EachRenamed id args args') :
    Alike (s.applyCall m node method args n) (s.applyCall m node' method args' n) := by
  unfold applyCall
  split
  · exact addFilter_alike h
  · exact addOrdering_alike _ _ h
  · exact addOrdering_alike _ _ h
  · exact addOrdering_alike _ _ h
  · exact addOrdering_alike _ _ h
  · exact (Expr.rowCount_alike h).bind fun _ _ => rfl
  · exact takeFirst_alike _ h
  · exact takeFirst_alike _ h
  · exact project_alike h
  · rw [h.isEmpty_eq]
    split <;> rfl
  · rfl

/-- Lambdas stand in the arguments of a chain's calls, side by side. -/
theorem draft_alike {worksheet : String} {e e' : Expr} (h : e.Renamed id e') :
    Alike (draft m worksheet e) (draft m worksheet e') := by
  induction e using draft.induct generalizing e' with
  | case1 element =>
    cases h
    rfl
  | case2 target method args ih =>
    cases h with | call htarget hargs =>
    refine (ih htarget).bind ?_
    rintro ⟨s, n⟩ _
    exact applyCall_alike hargs
  | case3 e hsource hcall =>
    cases h with
    | source => exact (hsource _ rfl).elim
    | call => exact (hcall _ _ _ rfl).elim
    | _ => rfl

theorem ofExpr_alike {worksheet : String} {e e' : Expr} (h : e.Renamed id e') :
    Alike (ofExpr e m worksheet) (ofExpr e' m worksheet) :=
  (draft_alike h).bind fun _ _ => rfl

end Selection

/-! ## Parameters and lambdas in bodies -/

/-- The node may stand in the body of a lambda over `p`: it is no other parameter, and no lambda. -/
def Expr.Belongs (p : String) : Expr → Prop
  | .parameter name => name = p
  | .lambda _ _ => False
  | _ => True

/-- A body that stands for a term has nodes of that kind only, by induction on the rules. -/
theorem Term.belongs_of_reads {m : ColumnMap} {p : String} {e part : Expr} {t : Term} {n n' : Nat}
    (h : Reads m p e n t n') (hpart : part.Within e) : part.Belongs p := by
  induction h with
  | member =>
    cases hpart with
    | refl => trivial
    | member hparameter =>
      cases hparameter
      exact rfl
  | index =>
    cases hpart with
    | refl => trivial
    | index hparameter =>
      cases hparameter
      exact rfl
  | constant =>
    cases hpart
    trivial
  | cast _ ih =>
    cases hpart with
    | refl => trivial
    | target htarget => exact ih htarget
    | argument hnone => cases hnone
  | textTest _ _ _ _ _ ihtarget iharg =>
    cases hpart with
    | refl => trivial
    | target htarget => exact ihtarget htarget
    | argument hmem harg =>
      obtain rfl := List.mem_singleton.mp hmem
      exact iharg harg
  | comparison _ _ _ _ ihl ihr | connective _ _ _ _ _ ihl ihr =>
    cases hpart with
    | refl => trivial
    | left hleft => exact ihl hleft
    | right hright => exact ihr hright
  | not _ _ ih | negate _ _ ih | convertColumn _ ih | convertLiteral _ _ ih =>
    cases hpart with
    | refl => trivial
    | operand hoperand => exact ih hoperand

namespace Selection

variable {m : ColumnMap} {p : String} {e part arg : Expr} {args : List Expr} {method : String}
  {s s' : Selection} {n n' : Nat}

theorem belongs_of_filterOfExpr {f : Filter} (h : Term.filterOfExpr m p e n = .ok (f, n'))
    (hpart : part.Within e) : part.Belongs p := by
  obtain ⟨t, k, hreads, -⟩ := Term.reads_of_filterOfExpr h
  exact Term.belongs_of_reads hreads hpart

theorem belongs_of_columnOfExpr {c : String} (h : Term.columnOfExpr m p e n = .ok (c, n'))
    (hpart : part.Within e) : part.Belongs p :=
  Term.belongs_of_reads (Term.reads_of_columnOfExpr h) hpart

theorem belongs_of_fieldColumns {fields : List (String × Expr)} {columns : List ProjectedColumn}
    (h : fieldColumns m p fields n = .ok (columns, n')) {field : String × Expr}
    (hfield : field ∈ fields) (hpart : part.Within field.2) : part.Belongs p := by
  induction fields generalizing n n' columns with
  | nil => cases hfield
  | cons first fields ih =>
    simp only [fieldColumns, bind_eq_ok, Prod.exists] at h
    obtain ⟨c, k, hcolumn, rest, k', hrest, -⟩ := h
    rcases List.mem_cons.mp hfield with rfl | hfield
    · exact belongs_of_columnOfExpr hcolumn hpart
    · exact ih hrest hfield

/-- An argument of a call that is accepted is a lambda whose body has its own parameter only, or
a constant. -/
theorem Applies.argument (h : Applies m method args s n s' n') (harg : arg ∈ args) :
    (∃ p body, arg = .lambda p body ∧ ∀ part : Expr, part.Within body → part.Belongs p) ∨
      ∃ l, arg = .constant l := by
  cases h with
  | filter _ hf | firstWhere _ _ hf =>
    obtain rfl := List.mem_singleton.mp harg
    exact .inl ⟨_, _, rfl, fun _ => belongs_of_filterOfExpr hf⟩
  | ordering _ _ _ hc | column _ hc =>
    obtain rfl := List.mem_singleton.mp harg
    exact .inl ⟨_, _, rfl, fun _ => belongs_of_columnOfExpr hc⟩
  | take =>
    obtain rfl := List.mem_singleton.mp harg
    exact .inr ⟨_, rfl⟩
  | first | asRows => cases harg
  | identity =>
    obtain rfl := List.mem_singleton.mp harg
    refine .inl ⟨_, _, rfl, fun part hpart => ?_⟩
    cases hpart
    exact rfl
  | record _ hcolumns =>
    obtain rfl := List.mem_singleton.mp harg
    refine .inl ⟨_, _, rfl, fun part hpart => ?_⟩
    cases hpart with
    | refl => trivial
    | field hmem hvalue => exact belongs_of_fieldColumns hcolumns hmem hvalue

/-- So it is with every lambda of a chain, call by call. -/
theorem Drafts.belongs {worksheet : String} (h : Drafts m worksheet e s n) {body : Expr}
    (hlambda : (Expr.lambda p body).Within e) (hpart : part.Within body) : part.Belongs p := by
  induction h with
  | source => cases hlambda
  | call _ hcall ih =>
    cases hlambda with
    | target htarget => exact ih htarget
    | argument harg hlambda =>
      obtain ⟨q, outer, rfl, hbody⟩ | ⟨l, rfl⟩ := hcall.argument harg
      · cases hlambda with
        | refl => exact hbody part hpart
        | body hinner => exact (hbody _ hinner).elim
      · cases hlambda

end Selection

/-! ## Renaming an expression -/

/-- An expression whose lambdas give their parameters other names compiles exactly when the
expression does, and to the same selection. When it does, every parameter in the body of one of
its lambdas is the lambda's own, and no lambda stands in the body of another. -/
theorem parameters_are_names (e : Expr) (m : ColumnMap) (worksheet : String) :
    (∀ e', e.Renamed id e' → ∀ s, Selection.ofExpr e' m worksheet = .ok s ↔
      Selection.ofExpr e m worksheet = .ok s) ∧
    ∀ s, Selection.ofExpr e m worksheet = .ok s → ∀ p body, (Expr.lambda p body).Within e →
      (∀ name, (Expr.parameter name).Within body → name = p) ∧
        ∀ q inner, ¬ (Expr.lambda q inner).Within body := by
  constructor
  · intro e' h s
    exact alike_ok_iff (Selection.ofExpr_alike h)
  · intro s hs p body hlambda
    obtain ⟨n, hdrafts⟩ := Selection.ofExpr_eq_ok.mp hs
    constructor
    · intro name hname
      exact hdrafts.belongs hlambda hname
    · intro q inner hinner
      exact hdrafts.belongs hlambda hinner

/-- A condition, an order and the whole row, each over another name; the first two give their
names to each other. -/
theorem parameters_are_names_swapped :
    let old (name : String) : Expr := .binary .gt (.member (.parameter name) "age")
      (.index (.parameter name) "limit")
    let e (x y z : String) : Expr := .call (.call (.call (.source .dynamic) "where"
      [.lambda x (old x)]) "order_by" [.lambda y (.member (.parameter y) "name")]) "select"
      [.lambda z (.parameter z)]
    let s : Selection :=
      { worksheet := "S"
        filter := some (.comparison "age" .gt (.column "limit"))
        ordering := [⟨"name", .ascending⟩] }
    (e "x" "y" "z").Renamed id (e "y" "x" "z") ∧
      Selection.ofExpr (e "x" "y" "z") .empty "S" = .ok s ∧
      Selection.ofExpr (e "y" "x" "z") .empty "S" = .ok s ∧
      (Expr.lambda "x" (old "x")).Within (e "x" "y" "z") ∧
      ∀ name, (Expr.parameter name).Within (old "x") → name = "x" := by
  intro old e s
  have hs : Selection.ofExpr (e "x" "y" "z") .empty "S" = .ok s :=
    eq_ok_of_toOption (by decide +kernel)
  obtain ⟨hsame, hown⟩ := parameters_are_names (e "x" "y" "z") .empty "S"
  have hlambda : (Expr.lambda "x" (old "x")).Within (e "x" "y" "z") :=
    .target (.target (.argument (List.mem_singleton_self _) .refl))
  have hkey : (Expr.lambda "y" (.member (.parameter "y") "name")).Within (e "x" "y" "z") :=
    .target (.argument (List.mem_singleton_self _) .refl)
  -- what compiles has no name in a body but the own one, so that every other name is new there
  have hfresh {p body} (h : (Expr.lambda p body).Within (e "x" "y" "z")) {name : String}
      (hne : name ≠ p) : ¬ body.Names name := by
    rintro (hname | ⟨inner, hinner⟩)
    · exact hne ((hown s hs p body h).1 name hname)
    · exact (hown s hs p body h).2 name inner hinner
  have hrenamed : (e "x" "y" "z").Renamed id (e "y" "x" "z") := by
    refine .call (.call (.call .source ?_) ?_) ?_
    · refine .cons (.lambda (.inr (hfresh hlambda (by decide))) ?_) .nil
      exact .binary (.member .parameter) (.index .parameter)
    · exact .cons (.lambda (.inr (hfresh hkey (by decide))) (.member .parameter)) .nil
    · exact .cons (.lambda (.inl rfl) .parameter) .nil
  exact ⟨hrenamed, hs, (hsame _ hrenamed s).mpr hs, hlambda, (hown s hs _ _ hlambda).1⟩

end WorkbookQuery
