/-
  Fields written in place. A field of a record takes a value or refuses it, and its setter says
  which (`setters_lawful`): a value that is taken is what the getter returns from then on,
  whatever integers are narrowed and wherever null may stand; a value that is refused leaves the
  record alone; no setter touches another field; and setting two fields in either order comes to
  the same record. What a field takes is neither more nor less than what its getter can return.
-/
import WorkbookQuery.Proofs.FirstFailure

namespace WorkbookQuery

/-! ## What a type takes -/

namespace BaseType

/-- A content stands for exactly one value, and a narrow integer is taken only where no digit
of it is lost. -/
theorem ofValue?_eq_some {b : BaseType} {v : Value} {x : b.Carrier} :
    b.ofValue? v = some x ↔ b.toValue x = v := by
  cases b with
  | text | integer | float | boolean | dateTime | date =>
    cases v <;> simp [ofValue?, toValue, eq_comm]
  | int32 =>
    cases v with
    | integer n =>
      simp only [ofValue?, toValue, Value.integer.injEq, Option.ite_none_right_eq_some,
        Option.some.injEq]
      constructor
      · rintro ⟨⟨hlow, hhigh⟩, rfl⟩
        rw [Int32.toInt_ofInt_of_le hlow hhigh, Int64.ofInt_toInt]
      · rintro rfl
        -- the wider type holds every narrow integer, so that none is changed on its way back
        have hlow := Int32.le_toInt x
        have hhigh := Int32.toInt_lt x
        rw [Int64.toInt_ofInt_of_le (by omega) (by omega)]
        exact ⟨⟨hlow, hhigh⟩, Int32.ofInt_toInt x⟩
    | _ => simp [ofValue?, toValue]
  | nat32 =>
    cases v with
    | integer n =>
      simp only [ofValue?, toValue, Value.integer.injEq, Option.ite_none_right_eq_some,
        Option.some.injEq]
      constructor
      · rintro ⟨⟨hlow, hhigh⟩, rfl⟩
        rw [UInt32.toNat_ofNat', Nat.mod_eq_of_lt (by omega), Int.toNat_of_nonneg hlow,
          Int64.ofInt_toInt]
      · rintro rfl
        have hhigh := UInt32.toNat_lt x
        rw [Int64.toInt_ofInt_of_le (by omega) (by omega), Int.toNat_natCast]
        exact ⟨by omega, UInt32.ofNat_toNat⟩
    | _ => simp [ofValue?, toValue]

theorem toValue_ne_null (b : BaseType) (x : b.Carrier) : b.toValue x ≠ .null := by
  cases b <;> exact Value.noConfusion

end BaseType

/-- A type takes a value as the content that stands for it. -/
theorem FieldType.ofValue?_eq_some {t : FieldType} {v : Value} {x : t.Carrier} :
    t.ofValue? v = some x ↔ t.toValue x = v := by
  obtain ⟨base, nullable⟩ := t
  cases nullable with
  | false => exact BaseType.ofValue?_eq_some
  | true =>
    cases v with
    | null =>
      cases x with
      | none => simp [ofValue?, toValue]
      | some y => simpa [ofValue?, toValue] using base.toValue_ne_null y
    | _ => cases x <;> simp [ofValue?, toValue, BaseType.ofValue?_eq_some]

/-! ## Setters -/

namespace Record

variable {fs : List Field} {r r' : Record fs} {i j : Fin fs.length} {v : Value}

/-- A value is put into a field in place, once the field's type has taken it. The answer is
whether it has. -/
def setter (i : Fin fs.length) (v : Value) : StateM (Record fs) (Option Unit) := do
  match (fs.get i).type.ofValue? v with
  | some x =>
    modify (·.put i x)
    return some ()
  | none => return none

/-- Setting in place is setting, and keeping the record when it is refused. -/
theorem run_setter (r : Record fs) (i : Fin fs.length) (v : Value) :
    (setter i v).run r = ((r.set? i v).map fun _ => (), (r.set? i v).getD r) := by
  rw [setter, set?_eq_map_put]
  cases (fs.get i).type.ofValue? v <;> rfl

theorem run_setter_eq_some : (setter i v).run r = (some (), r') ↔ r.set? i v = some r' := by
  rw [run_setter]
  cases r.set? i v with
  | none => exact ⟨nofun, nofun⟩
  | some q => constructor <;> rintro ⟨⟩ <;> rfl

theorem run_setter_eq_none :
    (setter i v).run r = (none, r') ↔ r.set? i v = none ∧ r' = r := by
  rw [run_setter]
  cases r.set? i v with
  | none =>
    constructor
    · rintro ⟨⟩
      exact ⟨rfl, rfl⟩
    · rintro ⟨-, rfl⟩
      rfl
  | some q => exact ⟨nofun, nofun⟩

/-- A field is set to the content that stands for the value. -/
theorem set?_eq_some :
    r.set? i v = some r' ↔ ∃ x, (fs.get i).type.toValue x = v ∧ r.put i x = r' := by
  rw [set?_eq_map_put, Option.map_eq_some_iff]
  simp only [FieldType.ofValue?_eq_some]

theorem get_put_self (r : Record fs) (i : Fin fs.length) (x : (fs.get i).type.Carrier) :
    (r.put i x).get i = (fs.get i).type.toValue x := by
  rw [get_eq_toValue, content_put_self]

theorem get_put_of_ne (r : Record fs) (x : (fs.get i).type.Carrier) (hij : i ≠ j) :
    (r.put i x).get j = r.get j := by
  rw [get_eq_toValue, get_eq_toValue, content_put_of_ne r x hij]

/-- Contents of two fields may be put in either order: no third field tells the orders apart,
and each of the two holds its own content both times. -/
theorem put_comm (r : Record fs) (hij : i ≠ j) (x : (fs.get i).type.Carrier)
    (y : (fs.get j).type.Carrier) : (r.put i x).put j y = (r.put j y).put i x := by
  apply eq_of_content
  intro k
  by_cases hi : k = i
  · subst hi
    rw [content_put_of_ne _ _ hij.symm, content_put_self, content_put_self]
  by_cases hj : k = j
  · subst hj
    rw [content_put_self, content_put_of_ne _ _ hij, content_put_self]
  · rw [content_put_of_ne _ _ (Ne.symm hj), content_put_of_ne _ _ (Ne.symm hi),
      content_put_of_ne _ _ (Ne.symm hi), content_put_of_ne _ _ (Ne.symm hj)]

/-- Whether a field takes a value does not depend on the record: it takes what some record's
getter returns. -/
theorem exists_set?_iff : (∃ r', r.set? i v = some r') ↔ ∃ q : Record fs, q.get i = v := by
  simp only [set?_eq_some]
  constructor
  · rintro ⟨_, x, hx, rfl⟩
    exact ⟨r.put i x, (get_put_self r i x).trans hx⟩
  · rintro ⟨q, rfl⟩
    exact ⟨_, q.content i, (get_eq_toValue q i).symm, rfl⟩

end Record

/-- Setters of a record of any fields. Setting in place is `Record.set?` with the record kept
when it is refused. A value is taken exactly when the field's getter returns it for some record.
When it is taken, the getter returns this very value afterwards and every other getter what it
returned before; when it is refused, all getters return what they returned before. Values that
two different fields take are both taken in either order, with the same record in the end. -/
theorem setters_lawful {fs : List Field} (r : Record fs) (i : Fin fs.length) (v : Value) :
    (Record.setter i v).run r = ((r.set? i v).map fun _ => (), (r.set? i v).getD r) ∧
    ((∃ r', (Record.setter i v).run r = (some (), r')) ↔ ∃ q : Record fs, q.get i = v) ∧
    (∀ r', (Record.setter i v).run r = (some (), r') →
      r'.get i = v ∧ ∀ j, j ≠ i → r'.get j = r.get j) ∧
    (∀ r', (Record.setter i v).run r = (none, r') → ∀ j, r'.get j = r.get j) ∧
    ∀ j w r₁ r₂, j ≠ i → (Record.setter i v).run r = (some (), r₁) →
      (Record.setter j w).run r = (some (), r₂) →
      ∃ both, (Record.setter j w).run r₁ = (some (), both) ∧
        (Record.setter i v).run r₂ = (some (), both) := by
  simp only [Record.run_setter_eq_some, Record.run_setter_eq_none, Record.set?_eq_some]
  refine ⟨Record.run_setter r i v, ?_, ?_, ?_, ?_⟩
  · simp only [← Record.set?_eq_some, Record.exists_set?_iff]
  · rintro _ ⟨x, rfl, rfl⟩
    exact ⟨r.get_put_self i x, fun j hj => r.get_put_of_ne x hj.symm⟩
  · rintro _ ⟨-, rfl⟩ j
    rfl
  · rintro j w _ _ hj ⟨x, hx, rfl⟩ ⟨y, hy, rfl⟩
    exact ⟨(r.put i x).put j y, ⟨y, hy, rfl⟩, x, hx, (r.put_comm hj.symm x y).symm⟩

/-- A narrow field at the lower end of its range beside a nullable one that is set to null, and
the same field refusing what is just above its range. -/
theorem setters_lawful_narrow :
    let fs : List Field := [⟨"small", ⟨.int32, false⟩⟩, ⟨"unsigned", ⟨.nat32, true⟩⟩]
    let r : Record fs := (7, some 9, ())
    let small : Fin fs.length := ⟨0, by decide⟩
    let unsigned : Fin fs.length := ⟨1, by decide⟩
    let lowest : Record fs := (-2147483648, some 9, ())
    let absent : Record fs := (7, none, ())
    unsigned ≠ small ∧
    (Record.setter small (.integer (-2147483648))).run r = (some (), lowest) ∧
    (Record.setter unsigned .null).run r = (some (), absent) ∧
    (lowest.get small = .integer (-2147483648) ∧ lowest.get unsigned = r.get unsigned) ∧
    (∃ both, (Record.setter unsigned .null).run lowest = (some (), both) ∧
      (Record.setter small (.integer (-2147483648))).run absent = (some (), both)) ∧
    (Record.setter small (.integer 2147483648)).run r = (none, r) ∧
    r.get small = .integer 7 := by
  intro fs r small unsigned lowest absent
  have hne : unsigned ≠ small := by decide
  have hlowest : (Record.setter small (.integer (-2147483648))).run r = (some (), lowest) := rfl
  have habsent : (Record.setter unsigned .null).run r = (some (), absent) := rfl
  have hrefused : (Record.setter small (.integer 2147483648)).run r = (none, r) := rfl
  obtain ⟨-, -, htaken, -, hboth⟩ := setters_lawful r small (.integer (-2147483648))
  obtain ⟨-, -, -, hkept, -⟩ := setters_lawful r small (.integer 2147483648)
  obtain ⟨hset, hothers⟩ := htaken lowest hlowest
  exact ⟨hne, hlowest, habsent, ⟨hset, hothers unsigned hne⟩,
    hboth unsigned .null lowest absent hne hlowest habsent, hrefused, hkept r hrefused small⟩

end WorkbookQuery
