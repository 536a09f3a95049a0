/-
  Rejected expressions. Whatever does not compile is rejected as unsupported, by the text of the
  expression or of a part of it (`rejected_for_part`): no other fault comes from an expression.
  Every step from a lambda's body up to the whole chain blames the node that it looks at or one
  below it, and so do steps one after the other.
-/
import WorkbookQuery.Proofs.Chain

namespace WorkbookQuery

/-- An expression stands somewhere in another one, or is it. -/
inductive Expr.Within : Expr → Expr → Prop where
  | refl {e} : Within e e
  | target {e target method args} : Within e target → Within e (.call target method args)
  | argument {e arg target method args} : arg ∈ args → Within e arg →
      Within e (.call target method args)
  | freeArgument {e arg method args} : arg ∈ args → Within e arg →
      Within e (.freeCall method args)
  | body {e parameter body} : Within e body → Within e (.lambda parameter body)
  | member {e target name} : Within e target → Within e (.member target name)
  | index {e target key} : Within e target → Within e (.index target key)
  | left {e op left right} : Within e left → Within e (.binary op left right)
  | right {e op left right} : Within e right → Within e (.binary op left right)
  | operand {e op operand} : Within e operand → Within e (.unary op operand)
  | field {e name value fields} : (name, value) ∈ fields → Within e value →
      Within e (.record fields)

/-- If the step fails, it rejects `e` or a part of it. -/
def Blames {α : Type} (e : Expr) (x : Except Fault α) : Prop :=
  ∀ fault, x = .error fault → ∃ part : Expr, part.Within e ∧ fault = .unsupported part.text

variable {α β : Type} {e part : Expr}

theorem blames_ok {a : α} : Blames e (.ok a) := nofun

theorem blames_reject (h : part.Within e) : Blames e (part.reject : Except Fault α) := by
  rintro fault ⟨⟩
  exact ⟨part, h, rfl⟩

theorem Blames.bind {x : Except Fault α} {f : α → Except Fault β} (hx : Blames e x)
    (hf : ∀ a, x = .ok a → Blames e (f a)) : Blames e (x >>= f) := by
  cases x with
  | ok a => exact hf a rfl
  | error fault =>
    rintro _ ⟨⟩
    exact hx fault rfl

theorem Expr.Within.trans {a b c : Expr} (hab : a.Within b) (hbc : b.Within c) :
    a.Within c := by
  induction hbc with
  | refl => exact hab
  | target _ ih => exact .target ih
  | argument h _ ih => exact .argument h ih
  | freeArgument h _ ih => exact .freeArgument h ih
  | body _ ih => exact .body ih
  | member _ ih => exact .member ih
  | index _ ih => exact .index ih
  | left _ ih => exact .left ih
  | right _ ih => exact .right ih
  | operand _ ih => exact .operand ih
  | field h _ ih => exact .field h ih

theorem Blames.within {x : Except Fault α} (hx : Blames part x) (h : part.Within e) :
    Blames e x := by
  intro fault hfault
  obtain ⟨inner, hinner, rfl⟩ := hx fault hfault
  exact ⟨inner, hinner.trans h, rfl⟩

/-! ## Bodies -/

namespace Term

variable {m : ColumnMap} {p : String} {n : Nat}

theorem blames_asFilter (t : Term) : Blames e (t.asFilter e n) := by
  cases t with
  | literal l => exact blames_reject .refl
  | column c | filter f => exact blames_ok

theorem blames_asColumn (t : Term) : Blames e (t.asColumn e) := by
  cases t with
  | column c => exact blames_ok
  | literal l | filter f => exact blames_reject .refl

theorem blames_compareColumn (c : String) (op : Comparison) (t : Term) :
    Blames e (compareColumn e c op n t) := by
  cases t with
  | column other => exact blames_ok
  | literal l =>
    simp only [compareColumn]
    split
    · cases op with
      | eq | ne => exact blames_ok
      | lt | le | gt | ge => exact blames_reject .refl
    · exact blames_ok
  | filter f => exact blames_reject .refl

theorem blames_compare (op : Comparison) (l r : Term) : Blames e (compare e op n l r) := by
  unfold compare
  split
  · exact blames_compareColumn _ _ _
  · exact blames_compareColumn _ _ _
  · exact blames_reject .refl

theorem blames_negate (t : Term) : Blames e (t.negate e) := by
  unfold negate
  split
  · split
    · exact blames_reject .refl
    · exact blames_ok
  · exact blames_ok
  · exact blames_reject .refl

theorem blames_convert (type : ScalarType) (t : Term) : Blames e (t.convert e type) := by
  cases t with
  | column c => exact blames_ok
  | literal l =>
    simp only [convert]
    split
    · exact blames_ok
    · exact blames_reject .refl
  | filter f => exact blames_reject .refl

/-- Every constant has a text, so that no conversion fails. -/
theorem blames_testText (test : String → BoundLiteral → Filter) (c : String) (t : Term) :
    Blames e (t.testText e test c n) := by
  cases t with
  | literal l =>
    simp only [testText]
    split
    · exact blames_reject .refl
    · obtain ⟨w, hw⟩ := Value.coerce_text_isOk l.value
      rw [Literal.typed, hw]
      exact blames_ok
  | column c | filter f => exact blames_reject .refl

/-- By induction along the function: each part is read by itself and blamed for itself. -/
theorem blames_ofExpr : Blames e (ofExpr m p e n) := by
  induction e, n using ofExpr.induct p with
  | case1 target name n hp =>
    rw [ofExpr, if_pos hp]
    exact blames_ok
  | case3 target key n hp =>
    rw [ofExpr, if_pos hp]
    exact blames_ok
  | case2 target name n hp | case4 target name n hp =>
    rw [ofExpr, if_neg hp]
    exact blames_reject .refl
  | case5 l n => exact blames_ok
  | case6 target method args n hm ih =>
    rw [ofExpr, if_pos hm]
    refine (ih.within (.target .refl)).bind ?_
    rintro ⟨t, n⟩ -
    exact ((blames_asColumn t).within (.target .refl)).bind fun _ _ => blames_ok
  | case7 target method args n hm test htest ih iharg =>
    rw [ofExpr, if_neg hm, htest]
    refine (ih.within (.target .refl)).bind ?_
    rintro ⟨t, n⟩ -
    refine ((blames_asColumn t).within (.target .refl)).bind fun c _ => ?_
    rcases args with _ | ⟨arg, _ | ⟨arg', rest⟩⟩
    · exact blames_reject .refl
    · refine ((iharg n).within (.argument (List.mem_singleton_self arg) .refl)).bind ?_
      rintro ⟨t, n⟩ -
      exact blames_testText test c t
    · exact blames_reject .refl
  | case8 target method args n hm htest =>
    rw [ofExpr, if_neg hm, htest]
    exact blames_reject .refl
  | case9 op left right n c hc ihl ihr =>
    rw [ofExpr, hc]
    refine (ihl.within (.left .refl)).bind ?_
    rintro ⟨l, n⟩ -
    refine ((ihr n).within (.right .refl)).bind ?_
    rintro ⟨r, n⟩ -
    exact blames_compare c l r
  | case10 op left right n connective hop hc ihl ihr =>
    rw [ofExpr, hc, hop]
    refine (ihl.within (.left .refl)).bind ?_
    rintro ⟨l, n⟩ -
    refine ((blames_asFilter l).within (.left .refl)).bind ?_
    rintro ⟨f, n⟩ -
    refine ((ihr n).within (.right .refl)).bind ?_
    rintro ⟨r, n⟩ -
    exact ((blames_asFilter r).within (.right .refl)).bind fun _ _ => blames_ok
  | case11 op left right n hop hc =>
    rw [ofExpr, hc, hop]
    exact blames_reject .refl
  | case12 operand n ih =>
    rw [ofExpr]
    refine (ih.within (.operand .refl)).bind ?_
    rintro ⟨t, n⟩ -
    cases t with
    | literal l => exact blames_reject .refl
    | column c | filter f => exact blames_ok
  | case13 operand n ih =>
    rw [ofExpr]
    refine (ih.within (.operand .refl)).bind ?_
    rintro ⟨t, n⟩ -
    exact (blames_negate t).bind fun _ _ => blames_ok
  | case14 type operand n ih =>
    rw [ofExpr]
    refine (ih.within (.operand .refl)).bind ?_
    rintro ⟨t, n⟩ -
    exact (blames_convert type t).bind fun _ _ => blames_ok
  | case15 e n hmember hindex hconstant hcall hbinary hnot hnegate hconvert =>
    rw [ofExpr]
    · exact blames_reject .refl
    all_goals assumption

theorem blames_columnOfExpr : Blames e (columnOfExpr m p e n) :=
  blames_ofExpr.bind fun ⟨t, _⟩ _ => (blames_asColumn t).bind fun _ _ => blames_ok

theorem blames_filterOfExpr : Blames e (filterOfExpr m p e n) :=
  blames_ofExpr.bind fun ⟨t, _⟩ _ => blames_asFilter t

end Term

/-! ## Chains -/

theorem Blames.guard {c : Prop} [Decidable c] {x : Except Fault α} (h : Blames e x) :
    Blames e (if c then (e.reject : Except Fault Unit) >>= fun _ => x else x) := by
  split
  · exact (blames_reject .refl).bind fun _ _ => h
  · exact h

namespace Expr

theorem blames_soleLambda (args : List Expr) : Blames e (e.soleLambda args) := by
  unfold soleLambda
  split
  · exact blames_ok
  · exact blames_reject .refl

theorem blames_rowCount (args : List Expr) : Blames e (e.rowCount args) := by
  unfold rowCount
  split
  · split
    · split
      · exact blames_ok
      · exact blames_reject .refl
    · exact blames_reject .refl
  · exact blames_reject .refl

/-- The body of a call's only lambda stands in the call. -/
theorem within_of_soleLambda {target body : Expr} {method p : String} {args : List Expr}
    (h : (Expr.call target method args).soleLambda args = .ok (p, body)) :
    body.Within (.call target method args) := by
  rw [soleLambda_eq_ok.mp h]
  exact .argument (List.mem_singleton_self _) (.body .refl)

end Expr

namespace Selection

variable {m : ColumnMap} {target : Expr} {method : String} {args : List Expr} {s : Selection}
  {n : Nat}

/-- A column for each field, each blamed for itself. -/
theorem blames_fieldColumns {p : String} {fields : List (String × Expr)}
    (h : ∀ field ∈ fields, field.2.Within e) : Blames e (fieldColumns m p fields n) := by
  induction fields generalizing n with
  | nil => exact blames_ok
  | cons field fields ih =>
    have hfield := h field List.mem_cons_self
    refine (Term.blames_columnOfExpr.within hfield).bind fun ⟨c, n⟩ _ => ?_
    exact (ih fun f hf => h f (List.mem_cons_of_mem field hf)).bind fun _ _ => blames_ok

theorem blames_addFilter :
    Blames (.call target method args) (s.addFilter m (.call target method args) args n) := by
  refine (Expr.blames_soleLambda args).bind fun ⟨p, body⟩ h => Blames.guard ?_
  have hbody := Expr.within_of_soleLambda h
  exact (Term.blames_filterOfExpr.within hbody).bind fun _ _ => blames_ok

theorem blames_addOrdering (direction : Direction) (continued : Bool) :
    Blames (.call target method args)
      (s.addOrdering m direction continued (.call target method args) args n) := by
  refine (Expr.blames_soleLambda args).bind fun ⟨p, body⟩ h => ?_
  have hbody := Expr.within_of_soleLambda h
  exact (Term.blames_columnOfExpr.within hbody).bind fun _ _ => Blames.guard blames_ok

theorem blames_takeFirst (cardinality : Cardinality) :
    Blames (.call target method args)
      (s.takeFirst m cardinality (.call target method args) args n) := by
  unfold takeFirst
  split
  · exact blames_ok
  · exact blames_addFilter.bind fun _ _ => blames_ok

theorem blames_project :
    Blames (.call target method args) (s.project m (.call target method args) args n) := by
  refine (Expr.blames_soleLambda args).bind fun ⟨p, body⟩ h => Blames.guard ?_
  have hbody := Expr.within_of_soleLambda h
  dsimp only
  split
  · exact blames_ok
  · split
    · next fields =>
      refine (blames_fieldColumns fun field hf => ?_).bind fun _ _ => blames_ok
      exact (Expr.Within.field hf .refl).trans hbody
    · exact (Term.blames_columnOfExpr.within hbody).bind fun _ _ => blames_ok

theorem blames_applyCall :
    Blames (.call target method args)
      (s.applyCall m (.call target method args) method args n) := by
  unfold applyCall
  split
  · exact blames_addFilter
  · exact blames_addOrdering _ _
  · exact blames_addOrdering _ _
  · exact blames_addOrdering _ _
  · exact blames_addOrdering _ _
  · exact (Expr.blames_rowCount args).bind fun _ _ => blames_ok
  · exact blames_takeFirst _
  · exact blames_takeFirst _
  · exact blames_project
  · split
    · exact blames_ok
    · exact blames_reject .refl
  · exact blames_reject .refl

theorem blames_draft (worksheet : String) (e : Expr) : Blames e (draft m worksheet e) := by
  induction e using draft.induct with
  | case1 element => exact blames_ok
  | case2 target method args ih =>
    exact (ih.within (.target .refl)).bind fun _ _ => blames_applyCall
  | case3 e hsource hcall =>
    rw [draft]
    · exact blames_reject .refl
    · exact hsource
    · exact hcall

theorem blames_ofExpr (worksheet : String) (e : Expr) :
    Blames e (Selection.ofExpr e m worksheet) :=
  (blames_draft worksheet e).bind fun _ _ => blames_ok

end Selection

/-- An expression that does not compile is rejected as unsupported and for nothing else, and what
it is blamed for is the text of the expression or of a part of it. -/
theorem rejected_for_part {e : Expr} {m : ColumnMap} {worksheet : String} {fault : Fault}
    (h : Selection.ofExpr e m worksheet = .error fault) :
    ∃ part : Expr, part.Within e ∧ fault = .unsupported part.text :=
  Selection.blames_ofExpr worksheet e fault h

/-- A text that is not a date, the least integer negated, and a call on nothing under a call:
each is blamed alone, however deep it stands. -/
theorem rejected_for_part_deep :
    let due (e : Expr) : Expr := .call (.source .dynamic) "where"
      [.lambda "x" (.unary .not (.binary .lt e (.member (.parameter "x") "due")))]
    let soon := due (.unary (.convert .date) (.ofValue (.text "soon")))
    let least := due (.unary .negate (.ofValue (.integer Int64.minValue)))
    let call : Expr := .call (.freeCall "rows" [.null]) "take" [.ofValue (.integer 1)]
    let blamed (e : Expr) (text : String) : Prop :=
      Selection.ofExpr e .empty "S" = .error (.unsupported text) ∧
        ∃ part : Expr, part.Within e ∧ Fault.unsupported text = .unsupported part.text
    blamed soon "(\"soon\" as date)" ∧ blamed least "--9223372036854775808" ∧
      blamed call "rows(null)" := by
  intro due soon least call blamed
  have hsoon : Selection.ofExpr soon .empty "S" =
      .error (.unsupported "(\"soon\" as date)") := eq_error_of_fault? (by decide +kernel)
  have hleast : Selection.ofExpr least .empty "S" =
      .error (.unsupported "--9223372036854775808") := eq_error_of_fault? (by decide +kernel)
  have hcall : Selection.ofExpr call .empty "S" = .error (.unsupported "rows(null)") :=
    eq_error_of_fault? (by decide +kernel)
  exact ⟨⟨hsoon, rejected_for_part hsoon⟩, ⟨hleast, rejected_for_part hleast⟩,
    ⟨hcall, rejected_for_part hcall⟩⟩

end WorkbookQuery
