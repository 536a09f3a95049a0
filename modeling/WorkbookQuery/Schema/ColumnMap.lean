/-
  Which worksheet column a property is read from. A property without an entry is read from the
  column of its own name.
-/

namespace WorkbookQuery

/-- Columns by property, every property at most once. -/
structure ColumnMap where
  entries : List (String × String) := []
  nodup : (entries.map Prod.fst).Nodup := by decide
  deriving DecidableEq

namespace ColumnMap

def empty : ColumnMap := {}

instance : Inhabited ColumnMap := ⟨empty⟩

/-- The entries with the column of one property replaced. -/
def replaced (property column : String) (entries : List (String × String)) :
    List (String × String) :=
  entries.map fun e => if e.1 = property then (property, column) else e

theorem replaced_fst (property column : String) (entries : List (String × String)) :
    (replaced property column entries).map Prod.fst = entries.map Prod.fst := by
  simp only [replaced, List.map_map]
  apply List.map_congr_left
  intro e _
  simp only [Function.comp]
  split
  · next h => exact h.symm
  · rfl

/-- Read `property` from `column`, in place of the column it was read from before. -/
def add (m : ColumnMap) (property column : String) : ColumnMap :=
  if h : property ∈ m.entries.map Prod.fst then
    ⟨replaced property column m.entries, by rw [replaced_fst]; exact m.nodup⟩
  else
    ⟨m.entries ++ [(property, column)], by
      rw [List.map_append, List.nodup_append]
      refine ⟨m.nodup, by simp, ?_⟩
      intro a ha b hb
      simp only [List.map_cons, List.map_nil, List.mem_singleton] at hb
      subst hb
      exact fun hab => h (hab ▸ ha)⟩

/-- The pairs in order; of several columns for one property the last holds. -/
def ofList (pairs : List (String × String)) : ColumnMap :=
  pairs.foldl (fun m (property, column) => m.add property column) empty

/-- The column of a property. Every property has one. -/
def resolve (m : ColumnMap) (property : String) : String :=
  (m.entries.lookup property).getD property

def size (m : ColumnMap) : Nat := m.entries.length

/-- Both maps have the same entries, in whatever order. -/
def same (m n : ColumnMap) : Bool :=
  m.size == n.size && m.entries.all fun (p, c) => n.entries.lookup p == some c

end ColumnMap

end WorkbookQuery
