/-
  Headers and their index. Headers are made of a list of names, or read from one in JSON, and the
  index is made of the names either way: a name stands for the first position that holds it
  (`headers_indexed`). A row that is made under headers finds its cells by their index. Nothing
  that is looked up depends on the order in which the index holds its entries, and the names of
  a row come in the order of their first positions, each once.
-/
import WorkbookQuery.Json.ValueForm
import WorkbookQuery.Proofs.Casting
import Mathlib.Data.List.Nodup

namespace WorkbookQuery

/-! ## Headers in JSON -/

namespace JsonValue

/-- A record of which only the field `columns` matters, or an array of this field alone. The
field is an array of texts. -/
inductive ListsColumns (columns : List String) : JsonValue → Prop where
  | record {before after : List (String × JsonValue)} :
      (∀ p ∈ before ++ after, p.1 ≠ "columns") →
      ListsColumns columns
        (record (before ++ ("columns", array (columns.map ofText)) :: after))
  | array : ListsColumns columns (array [array (columns.map ofText)])

theorem text?_eq_some {v : JsonValue} {s : String} : v.text? = some s ↔ v = ofText s := by
  cases v <;> simp [text?, ofText]

theorem mapM_text?_eq_some {items : List JsonValue} {texts : List String} :
    items.mapM text? = some texts ↔ items = texts.map ofText := by
  induction items generalizing texts with
  | nil => cases texts <;> simp
  | cons v items ih =>
    rw [List.mapM_cons]
    cases texts <;> simp [Option.bind_eq_some_iff, text?_eq_some, ih]

theorem members?_eq_some {members : List (Option String × JsonValue)}
    {named : List (String × JsonValue)} : members? members = some named ↔
      members = named.map fun (k, v) => (some k, v) := by
  induction members generalizing named with
  | nil => cases named <;> simp [members?]
  | cons member members ih =>
    obtain ⟨k, v⟩ := member
    cases named with
    | nil => cases k <;> simp [members?, Option.bind_eq_some_iff]
    | cons first named =>
      obtain ⟨key, w⟩ := first
      cases k <;> simp [members?, Option.bind_eq_some_iff, ih, and_comm]

/-- A key is found when it stands in one place and in no other. -/
theorem lookupAll?_eq_some {members : List (String × JsonValue)} {name : String}
    {v : JsonValue} : lookupAll? members [name] = some [some v] ↔
      ∃ before after, members = before ++ (name, v) :: after ∧
        ∀ p ∈ before ++ after, p.1 ≠ name := by
  have hfound : lookupAll? members [name] = some [some v] ↔
      members.filter (·.1 == name) = [(name, v)] := by
    rw [lookupAll?, lookupAll?]
    cases hfilter : members.filter (·.1 == name) with
    | nil => simp
    | cons p rest =>
      have hmem : p ∈ members.filter (·.1 == name) := hfilter ▸ List.mem_cons_self
      have hp : (p.1 == name) = true := (List.mem_filter.mp hmem).2
      obtain ⟨k, w⟩ := p
      have hk : k = name := eq_of_beq hp
      cases rest with
      | nil => simp [hk]
      | cons q rest => simp
  rw [hfound, List.filter_eq_cons_iff]
  simp only [beq_iff_eq, List.filter_eq_nil_iff, List.forall_mem_append, true_and]

/-- The one field of a record. -/
theorem fields?_eq_some {name : String} {depth d : Nat} {v w : JsonValue} :
    fields? false [name] depth v = some (d, [some w]) ↔ depth = d + 1 ∧
      ((∃ before after, v = record (before ++ (name, w) :: after) ∧
        ∀ p ∈ before ++ after, p.1 ≠ name) ∨ v = array [w]) := by
  cases depth with
  | zero => simp [fields?]
  | succ e =>
    cases v with
    | object members =>
      have hmembers : fields? false [name] (e + 1) (object members) = some (d, [some w]) ↔
          ∃ named, members? members = some named ∧ lookupAll? named [name] = some [some w] ∧
            e = d := by
        simp [fields?, Option.bind_eq_some_iff]
      rw [hmembers]
      simp only [members?_eq_some, lookupAll?_eq_some]
      constructor
      · rintro ⟨_, rfl, ⟨before, after, rfl, hne⟩, rfl⟩
        exact ⟨rfl, .inl ⟨before, after, rfl, hne⟩⟩
      · rintro ⟨hd, ⟨before, after, hv, hne⟩ | hv⟩ <;> cases hv
        exact ⟨_, rfl, ⟨before, after, rfl, hne⟩, Nat.succ.inj hd⟩
    | array items =>
      rcases items with _ | ⟨u, _ | ⟨_, _⟩⟩ <;> simp [fields?, record]
    | _ => simp [fields?, record]

end JsonValue

open JsonValue in
/-- Headers are read from what lists their names and from nothing else, as deep as this goes. -/
theorem Headers.read?_eq_some {depth : Nat} {v : JsonValue} {h : Headers} :
    JsonForm.read? depth v = some h ↔ 2 ≤ depth ∧ v.ListsColumns h.columns := by
  constructor
  · intro hread
    -- one step of the reading at a time; two of them go one level down
    obtain ⟨⟨d, found⟩, hfields, hfound⟩ := Option.bind_eq_some_iff.mp hread
    rcases found with _ | ⟨column, _ | _⟩
    · cases hfound
    · obtain ⟨⟨_, items⟩, hcolumn, hitems⟩ := Option.bind_eq_some_iff.mp hfound
      obtain ⟨w, rfl, hw⟩ := Option.bind_eq_some_iff.mp hcolumn
      obtain ⟨texts, htexts, hh⟩ := Option.bind_eq_some_iff.mp hitems
      cases hh
      cases d with
      | zero => cases hw
      | succ d =>
        cases w <;> cases hw
        rw [mapM_text?_eq_some] at htexts
        subst htexts
        obtain ⟨rfl, ⟨before, after, rfl, hne⟩ | rfl⟩ := fields?_eq_some.mp hfields
        · exact ⟨by omega, .record hne⟩
        · exact ⟨by omega, .array⟩
    · cases hfound
  · rintro ⟨hdepth, hlists⟩
    obtain ⟨d, rfl⟩ := Nat.exists_eq_add_of_le' hdepth
    have hfields : fields? false ["columns"] (d + 2) v =
        some (d + 1, [some (.array (h.columns.map ofText))]) := by
      apply fields?_eq_some.mpr
      cases hlists with
      | record hne => exact ⟨rfl, .inl ⟨_, _, rfl, hne⟩⟩
      | array => exact ⟨rfl, .inr rfl⟩
    have hitems : (h.columns.map ofText).mapM text? = some h.columns :=
      mapM_text?_eq_some.mpr rfl
    apply Option.bind_eq_some_iff.mpr
    refine ⟨_, hfields, ?_⟩
    simp [required, items?, hitems]

/-! ## The index -/

namespace HeaderIndex

variable {index other : HeaderIndex} {n : Nat} {name : String}

/-- The entries of an index while names are entered, the last one first: no name is there twice,
and the positions go down, all of them below the next one. -/
structure Descending (index : HeaderIndex) (n : Nat) : Prop where
  nodup : (index.map Prod.fst).Nodup
  descending : index.Pairwise fun a b => b.2 < a.2
  below : ∀ e ∈ index, e.2 < n

theorem position?_eq_none : index.position? name = none ↔ name ∉ index.map Prod.fst := by
  rw [position?, List.lookup_eq_none_iff, List.mem_map]
  simp only [bne_iff_ne]
  constructor
  · rintro h ⟨e, he, rfl⟩
    exact h e he rfl
  · rintro h e he rfl
    exact h ⟨e, he, rfl⟩

/-- Where no name is twice, a name has the position that it was entered with. -/
theorem position?_eq_some (hnodup : (index.map Prod.fst).Nodup) {i : Nat} :
    index.position? name = some i ↔ (name, i) ∈ index := by
  induction index with
  | nil => simp [position?]
  | cons e index ih =>
    obtain ⟨first, k⟩ := e
    obtain ⟨hfirst, hnodup⟩ := List.nodup_cons.mp hnodup
    rw [position?] at ih ⊢
    rw [List.lookup_cons, List.mem_cons]
    by_cases h : name = first
    · subst h
      have habsent : (name, i) ∉ index := fun hmem =>
        hfirst (List.mem_map.mpr ⟨_, hmem, rfl⟩)
      simp [habsent, eq_comm]
    · have hne : (name == first) = false := beq_eq_false_iff_ne.mpr h
      rw [hne]
      simpa [h] using ih hnodup

/-- The order of the entries does not matter to a name's position. -/
theorem position?_perm (hperm : other.Perm index) (hnodup : (index.map Prod.fst).Nodup)
    (name : String) : other.position? name = index.position? name := by
  have hother : (other.map Prod.fst).Nodup := (hperm.map Prod.fst).nodup_iff.mpr hnodup
  apply Option.ext
  intro i
  rw [position?_eq_some hother, position?_eq_some hnodup, hperm.mem_iff]

/-- One more name, at the next position. -/
theorem Descending.enter (h : index.Descending n) (name : String) :
    (index.enter name n).Descending (n + 1) := by
  have hbelow : ∀ e ∈ index, e.2 < n + 1 := fun e he => Nat.lt_succ_of_lt (h.below e he)
  rw [HeaderIndex.enter]
  split
  · exact ⟨h.nodup, h.descending, hbelow⟩
  · next hnone =>
    refine ⟨?_, List.pairwise_cons.mpr ⟨h.below, h.descending⟩, ?_⟩
    · exact List.nodup_cons.mpr ⟨position?_eq_none.mp hnone, h.nodup⟩
    · exact List.forall_mem_cons.mpr ⟨Nat.lt_succ_self n, hbelow⟩

theorem Descending.enterAll (h : index.Descending n) (names : List String) :
    (index.enterAll n names).Descending (n + names.length) := by
  induction names generalizing index n with
  | nil => exact h
  | cons name rest ih =>
    rw [HeaderIndex.enterAll, List.length_cons, Nat.add_comm rest.length, ← Nat.add_assoc]
    exact ih (h.enter name)

/-- Entered names stand behind those that were there, each where it comes first. -/
theorem names_enterAll (index : HeaderIndex) (n : Nat) (names : List String) :
    ((index.enterAll n names).map Prod.fst).reverse = (index.map Prod.fst).reverse ++
      (names.filter fun name => !(index.map Prod.fst).contains name).eraseDups := by
  induction names generalizing index n with
  | nil => simp [enterAll]
  | cons name rest ih =>
    rw [enterAll, ih, List.filter_cons]
    -- a name that is there is filtered out; another one filters its own repetitions out
    by_cases hmem : name ∈ index.map Prod.fst
    · have hsome : index.position? name ≠ none := mt position?_eq_none.mp (not_not_intro hmem)
      obtain ⟨p, hp⟩ := Option.ne_none_iff_exists'.mp hsome
      rw [enter, hp, if_neg (by simpa using hmem)]
    · have hfilter : (rest.filter fun other => !(name :: index.map Prod.fst).contains other) =
          (rest.filter fun other => !(index.map Prod.fst).contains other).filter
            fun other => !other == name := by
        rw [List.filter_filter]
        apply List.filter_congr
        intro other _
        rw [List.contains_cons, Bool.not_or]
      rw [enter, position?_eq_none.mpr hmem, if_pos (by simpa using hmem), List.eraseDups_cons,
        ← hfilter, List.map_cons, List.reverse_cons, List.append_assoc]
      rfl

/-- The entries of an index by their positions. -/
theorem sorted_mergeSort (index : HeaderIndex) :
    (index.mergeSort fun a b => a.2 ≤ b.2).Pairwise fun a b => a.2 ≤ b.2 := by
  have htrans : ∀ a b c : String × Nat, decide (a.2 ≤ b.2) = true →
      decide (b.2 ≤ c.2) = true → decide (a.2 ≤ c.2) = true := by
    simp only [decide_eq_true_eq]
    intro a b c
    exact Nat.le_trans
  have htotal : ∀ a b : String × Nat, (decide (a.2 ≤ b.2) || decide (b.2 ≤ a.2)) = true := by
    simp only [Bool.or_eq_true, decide_eq_true_eq]
    intro a b
    exact Nat.le_total a.2 b.2
  exact (List.pairwise_mergeSort htrans htotal index).imp of_decide_eq_true

/-- However its entries are ordered, the names of an index come in the order in which they were
entered: sorting by positions leaves only one order. -/
theorem Descending.names_eq (h : index.Descending n) (hperm : other.Perm index) :
    other.names = (index.map Prod.fst).reverse := by
  have hpositions : (index.map Prod.snd).Nodup :=
    List.pairwise_map.mpr (h.descending.imp Nat.ne_of_gt)
  have hascending : index.reverse.Pairwise fun a b => a.2 ≤ b.2 :=
    List.pairwise_reverse.mpr (h.descending.imp Nat.le_of_lt)
  have hsort : (other.mergeSort fun a b => a.2 ≤ b.2).Perm index :=
    (List.mergeSort_perm other _).trans hperm
  have hsame : (other.mergeSort fun a b => a.2 ≤ b.2) = index.reverse := by
    apply List.Perm.eq_of_pairwise ?_ (sorted_mergeSort other) hascending
    · exact hsort.trans index.reverse_perm.symm
    · intro a b ha hb hab hba
      exact List.inj_on_of_nodup_map hpositions (hsort.mem_iff.mp ha) (List.mem_reverse.mp hb)
        (Nat.le_antisymm hab hba)
  rw [names, hsame, List.map_reverse]

end HeaderIndex

/-! ## Rows under headers -/

namespace Headers

variable {h : Headers} {name : String}

theorem descending_index (h : Headers) : h.index.Descending h.width := by
  have hempty : HeaderIndex.Descending [] 0 := ⟨List.nodup_nil, .nil, nofun⟩
  simpa [index, width] using hempty.enterAll h.columns

/-- The names of an index come in the order of their first columns. -/
theorem names_of_perm {index : HeaderIndex} (hperm : index.Perm h.index) :
    index.names = h.columns.eraseDups := by
  rw [h.descending_index.names_eq hperm, Headers.index, HeaderIndex.names_enterAll]
  simp

theorem position?_eq_some_iff {i : Nat} : h.position? name = some i ↔
    h.columns[i]? = some name ∧ ∀ j < i, h.columns[j]? ≠ some name := by
  rw [h.position?_eq, List.idxOf?_eq_some_iff]
  constructor
  · rintro ⟨hi, hname, hbefore⟩
    refine ⟨List.getElem?_eq_some_iff.mpr ⟨hi, hname⟩, fun j hj hother => ?_⟩
    obtain ⟨_, hother⟩ := List.getElem?_eq_some_iff.mp hother
    exact hbefore j hj hother
  · rintro ⟨hname, hbefore⟩
    obtain ⟨hi, hname⟩ := List.getElem?_eq_some_iff.mp hname
    refine ⟨hi, hname, fun j hj hother => hbefore j hj ?_⟩
    exact List.getElem?_eq_some_iff.mpr ⟨Nat.lt_trans hj hi, hother⟩

theorem position?_eq_none_iff : h.position? name = none ↔ name ∉ h.columns := by
  rw [h.position?_eq, List.idxOf?_eq_none_iff]

end Headers

/-- A row finds its cells by the headers: under a header is the cell at the header's position, a
name without a position is not found, and the row's own names are the headers without
repetitions, in the order in which they come first. -/
structure Row.IndexedBy (h : Headers) (row : Row) : Prop where
  cell : ∀ name i, h.position? name = some i →
    ∃ c, row.cells[i]? = some c ∧ row.cell name = .ok c
  missing : ∀ name, h.position? name = none → row.cell name = .error (.columnNotFound name)
  names : row.columnNames = h.columns.eraseDups

/-- Cells as many as headers are found by the headers, in whatever order the index stands. -/
theorem Row.indexedBy_of_perm {h : Headers} {cells : List Cell} {index : HeaderIndex}
    (hwidth : cells.length = h.width) (hperm : index.Perm h.index) :
    Row.IndexedBy h ⟨cells, index⟩ where
  cell name i hi := by
    have hposition : index.position? name = some i :=
      (HeaderIndex.position?_perm hperm h.descending_index.nodup name).trans hi
    have hlt : i < cells.length := by
      rw [hwidth]
      exact (List.getElem?_eq_some_iff.mp (Headers.position?_eq_some_iff.mp hi).1).1
    exact ⟨cells[i], List.getElem?_eq_getElem hlt, by simp [Row.cell, hposition, hlt]⟩
  missing name hname := by
    have hposition : index.position? name = none :=
      (HeaderIndex.position?_perm hperm h.descending_index.nodup name).trans hname
    simp [Row.cell, hposition]
  names := Headers.names_of_perm hperm

/-- Everything that was read has been made of a row. -/
theorem RowSource.exists_make_of_mem_collect {σ α : Type} [RowSource σ]
    {make : Nat → RawRow → Except Fault α} {n : Nat} {s t : σ} {as : List α}
    (h : collect make n s = .ok as t) {a : α} (ha : a ∈ as) : ∃ k row, make k row = .ok a := by
  fun_induction collect make n s generalizing as t with
  | case1 => cases h
  | case2 =>
    cases h
    cases ha
  | case3 => cases h
  | case4 n s row _ _ _ hrow _ _ hrest ih =>
    cases h
    cases ha with
    | head => exact ⟨n, row, hrow⟩
    | tail _ ha => exact ih hrest ha
  | case5 => cases h

/-- A row that is made has a cell under every header, and the index of the headers. -/
theorem Row.eq_under_of_ofRaw {headers : Headers} {n : Nat} {raw : RawRow} {row : Row}
    (h : Row.ofRaw headers n raw = .ok row) :
    raw.length = headers.width ∧ row = Row.under headers raw := by
  obtain ⟨_, hcheck, hrow⟩ := bind_eq_ok.mp h
  exact ⟨width_of_checkWidth hcheck, (pure_eq_ok.mp hrow).symm⟩

/-- Headers of any names, repeated or empty. What they are read from in JSON is what lists their
names. A name stands for the least position that holds it, and for none when none does, and
this is what the headers contain. Every row that is made under them from whatever source finds
its cells by them, however the entries of its index are ordered. -/
theorem headers_indexed (h : Headers) :
    (∀ depth v, JsonForm.read? depth v = some h ↔ 2 ≤ depth ∧ v.ListsColumns h.columns) ∧
    (∀ name i, h.position? name = some i ↔
      h.columns[i]? = some name ∧ ∀ j < i, h.columns[j]? ≠ some name) ∧
    (∀ name, h.position? name = none ↔ name ∉ h.columns) ∧
    (∀ name, h.contains name = true ↔ name ∈ h.columns) ∧
    ∀ {σ : Type} [RowSource σ] (m : ColumnMap) (trim : Bool) (s t : σ) (rows : List Row),
      materialize .rows h m trim s = .ok rows t → ∀ row ∈ rows, row.IndexedBy h ∧
        ∀ index : HeaderIndex, index.Perm row.index → Row.IndexedBy h ⟨row.cells, index⟩ := by
  refine ⟨fun depth v => Headers.read?_eq_some, fun name i => Headers.position?_eq_some_iff,
    fun name => Headers.position?_eq_none_iff, fun name => ?_, ?_⟩
  · rw [Headers.contains, Option.isSome_iff_ne_none, ne_eq, Headers.position?_eq_none_iff,
      not_not]
  · intro σ _ m trim s t rows hrows row hrow
    obtain ⟨n, raw, hmade⟩ := RowSource.exists_make_of_mem_collect hrows hrow
    obtain ⟨hwidth, rfl⟩ := Row.eq_under_of_ofRaw hmade
    have hcells : (Row.under h raw).cells.length = h.width :=
      (List.length_map Cell.mk).trans hwidth
    exact ⟨Row.indexedBy_of_perm hcells (.refl h.index),
      fun index hperm => Row.indexedBy_of_perm hcells hperm⟩

/-- Headers with two names that are repeated, one of them empty, read from JSON beside a field
that does not matter, and a row that is made under them. -/
theorem headers_indexed_repeated :
    let h : Headers := ⟨["a", "", "a", "b", ""]⟩
    let v := JsonValue.record [("rows", .null), ("columns", .array (h.columns.map .ofText))]
    let raw : RawRow := [.integer 1, .integer 2, .null, .text "x", .boolean true]
    JsonForm.read? 2 v = some h ∧ h.position? "" = some 1 ∧ h.position? "c" = none ∧
    ∃ row : Row,
      materialize .rows h .empty false (RowSource.ofRows [raw]) = .ok [row] [] ∧
      row.cell "" = .ok ⟨.integer 2⟩ ∧ row.cell "c" = .error (.columnNotFound "c") ∧
      row.columnNames = ["a", "", "b"] ∧
      row.index.reverse.Perm row.index ∧
      Row.columnNames ⟨row.cells, row.index.reverse⟩ = ["a", "", "b"] := by
  intro h v raw
  obtain ⟨hread, hposition, hnone, -, hrows⟩ := headers_indexed h
  have hlists : v.ListsColumns h.columns :=
    @JsonValue.ListsColumns.record h.columns [("rows", .null)] [] (by decide)
  have hempty : h.position? "" = some 1 := (hposition "" 1).mpr ⟨rfl, by decide⟩
  have hmissing : h.position? "c" = none := (hnone "c").mpr (by decide)
  have hmade : materialize .rows h .empty false (RowSource.ofRows [raw]) =
      .ok [Row.under h raw] [] := RowSource.collect_ofRows.mpr ⟨rfl, .cons rfl .nil⟩
  obtain ⟨hindexed, hreordered⟩ := hrows .empty false _ _ _ hmade _ List.mem_cons_self
  obtain ⟨c, hc, hcell⟩ := hindexed.cell "" 1 hempty
  cases hc
  have hreverse := (Row.under h raw).index.reverse_perm
  exact ⟨(hread 2 v).mpr ⟨Nat.le_refl 2, hlists⟩, hempty, hmissing, Row.under h raw, hmade, hcell,
    hindexed.missing "c" hmissing, hindexed.names, hreverse, (hreordered _ hreverse).names⟩

end WorkbookQuery
