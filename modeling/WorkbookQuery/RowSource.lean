/-
  Sources of raw rows. A source yields one row after the other, forward only, until its rows
  end or a read fails.
-/
import WorkbookQuery.Fault

namespace WorkbookQuery

abbrev RawRow := List Value

/-- A state from which rows can be read. A read that yields a row leaves less to read. -/
class RowSource (σ : Type) where
  next : EStateM Fault σ (Option RawRow)
  remaining : σ → Nat
  remaining_lt {s t : σ} {row : RawRow} : next s = .ok (some row) t → remaining t < remaining s

namespace RowSource

variable {σ α : Type} [RowSource σ]

/-- Make something of every row, the first being number `n`. The first failure, of a read or
of what is made, ends the reading. -/
def collect (make : Nat → RawRow → Except Fault α) (n : Nat) (s : σ) :
    EStateM.Result Fault σ (List α) :=
  match _ : next s with
  | .error e s => .error e s
  | .ok none s => .ok [] s
  | .ok (some row) t =>
    match make n row with
    | .error e => .error e t
    | .ok a =>
      match collect make (n + 1) t with
      | .ok rest s => .ok (a :: rest) s
      | .error e s => .error e s
termination_by remaining s
decreasing_by exact remaining_lt (by assumption)

/-- A list of rows and failures is read from its front. -/
instance : RowSource (List (Except Fault RawRow)) where
  next
    | [] => .ok none []
    | .ok row :: rest => .ok (some row) rest
    | .error e :: rest => .error e rest
  remaining := List.length
  remaining_lt {s t row} h := by
    match s with
    | [] => simp at h
    | .ok _ :: _ => simp at h; obtain ⟨_, rfl⟩ := h; simp
    | .error _ :: _ => simp at h

end RowSource

/-- A source of which at most `left` rows are read, if that is given. -/
structure Limited (σ : Type) where
  source : σ
  left : Option Nat

/-- At the limit the source is not touched any more. -/
instance {σ : Type} [RowSource σ] : RowSource (Limited σ) where
  next s :=
    match s.left with
    | some 0 => .ok none s
    | left =>
      match RowSource.next s.source with
      | .ok row t => .ok row ⟨t, left.map (· - 1)⟩
      | .error e t => .error e ⟨t, left.map (· - 1)⟩
  remaining s := RowSource.remaining s.source
  remaining_lt {s t row} h := by
    split at h
    · simp at h
    · split at h
      · next hs =>
        simp only [EStateM.Result.ok.injEq] at h
        obtain ⟨rfl, rfl⟩ := h
        exact RowSource.remaining_lt hs
      · simp at h

end WorkbookQuery
