import ElasticGrid.Grid.Pack
import ElasticGrid.Grid.Reorder
import ElasticGrid.Grid.Resize

/-!
# The shape of a grid

`g.HasShape c r`: the grid has `c` columns of `r` cells each, and `c` and `r` are zero
together or not at all. A grid is rectangular exactly when it has a shape, and its
shape and its cells determine it. Each operation on grids gets one lemma here, which
tells the shape that comes out of it; the cells are dealt with in
`ElasticGrid.Proofs.Cells`.
-/

namespace ElasticGrid.Grid

variable {α : Type} {g h : Grid α} {c r : Nat}

structure HasShape (g : Grid α) (c r : Nat) : Prop where
  columns : g.columns.length = c
  rows : ∀ column ∈ g.columns, column.length = r
  flat : c = 0 ↔ r = 0

theorem HasShape.columnCount (hg : g.HasShape c r) : g.columnCount = c := hg.columns

theorem HasShape.rowCount (hg : g.HasShape c r) : g.rowCount = r := by
  obtain ⟨hc, hr, hf⟩ := hg
  rcases g with ⟨_ | ⟨column, columns⟩⟩
  · simp only [List.length_nil] at hc
    exact (hf.1 hc.symm).symm
  · exact hr column (by simp)

theorem HasShape.rectangular (hg : g.HasShape c r) : g.Rectangular := by
  intro column hm
  have hpos : 0 < g.columns.length := List.length_pos_of_mem hm
  have hr := hg.rows column hm
  have := hg.flat; have := hg.columns
  exact ⟨by rw [hg.rowCount, hr], by omega⟩

theorem Rectangular.hasShape (hg : g.Rectangular) : g.HasShape g.columnCount g.rowCount :=
  ⟨rfl, fun _ hm => (hg _ hm).1, hg.columnCount_eq_zero_iff⟩

theorem HasShape.size_eq (hg : g.HasShape c r) : g.size = ⟨c, r⟩ := by
  rw [size, hg.columnCount, hg.rowCount]

theorem Rectangular.count_eq_zero_iff (hg : g.Rectangular) (axis : Axis) :
    g.count axis = 0 ↔ g.columnCount = 0 := by
  cases axis with
  | column => rfl
  | row => exact hg.columnCount_eq_zero_iff.symm

theorem Rectangular.isEmpty_iff (hg : g.Rectangular) (axis : Axis) :
    g.isEmpty ↔ g.count axis = 0 :=
  g.isEmpty_iff_columnCount.trans (hg.count_eq_zero_iff axis).symm

/-! ## Columns of one length

Growth and removal pass through lists of columns that are equally long but have no
shape, such as columns without a cell. -/

theorem rowCount_of_lengths (hne : g.columns ≠ []) (hr : ∀ column ∈ g.columns, column.length = r) :
    g.rowCount = r := by
  rcases g with ⟨_ | ⟨column, columns⟩⟩
  · exact absurd rfl hne
  · exact hr column (by simp)

theorem length_of_mem_widen (hg : g.HasShape c r) {n : Nat} {column : List (Option α)}
    (hm : column ∈ (g.widen n).columns) : column.length = r := by
  simp only [widen, List.rightpad, List.mem_append, List.mem_replicate] at hm
  rcases hm with hm | ⟨-, rfl⟩
  · exact hg.rows column hm
  · rw [List.length_replicate, hg.rowCount]

theorem length_of_mem_heighten (hg : g.HasShape c r) {n : Nat} {column : List (Option α)}
    (hm : column ∈ (g.heighten n).columns) : column.length = max n r := by
  simp only [heighten, List.mem_map] at hm
  obtain ⟨column, hm, rfl⟩ := hm
  rw [List.length_rightpad, hg.rows column hm]

/-! ## What each operation makes of a shape -/

theorem hasShape_empty : (empty : Grid α).HasShape 0 0 := ⟨rfl, by simp [empty], Iff.rfl⟩

theorem hasShape_blank (hf : c = 0 ↔ r = 0) : (blank c r : Grid α).HasShape c r := by
  refine ⟨List.length_replicate, fun column hm => ?_, hf⟩
  rw [(List.mem_replicate.1 hm).2, List.length_replicate]

theorem HasShape.setCell (hg : g.HasShape c r) (x y : Nat) (value : Option α) :
    (g.setCell x y value).HasShape c r := by
  refine ⟨by simpa [Grid.setCell] using hg.columns, fun column hm => ?_, hg.flat⟩
  obtain ⟨i, hi⟩ := List.mem_iff_getElem?.1 hm
  simp only [Grid.setCell, List.getElem?_modify] at hi
  obtain ⟨old, ho, rfl⟩ := Option.map_eq_some_iff.1 hi
  have hl := hg.rows old (List.mem_of_getElem? ho)
  split <;> simp [hl]

theorem HasShape.widen (hg : g.HasShape c r) (hc : 0 < c) (n : Nat) :
    (g.widen n).HasShape (max n c) r := by
  refine ⟨?_, fun column hm => length_of_mem_widen hg hm, ?_⟩
  · rw [← hg.columnCount]; exact columnCount_widen n g
  · have := hg.flat; omega

theorem HasShape.heighten (hg : g.HasShape c r) (hc : 0 < c) (n : Nat) :
    (g.heighten n).HasShape c (max n r) := by
  refine ⟨?_, fun column hm => length_of_mem_heighten hg hm, ?_⟩
  · rw [← hg.columnCount]; exact columnCount_heighten n g
  · have := hg.flat; omega

theorem HasShape.insertRow (hg : g.HasShape c r) {y : Nat} (hy : y ≤ r)
    (values : List (Option α)) :
    (g.insertRow y values).HasShape (max c (max values.length 1)) (r + 1) := by
  refine ⟨?_, fun column hm => ?_, by omega⟩
  · rw [← hg.columnCount]; exact columnCount_insertRow y values g
  · obtain ⟨i, hi⟩ := List.mem_iff_getElem?.1 hm
    obtain ⟨old, value, ho, -, rfl⟩ := List.getElem?_zipWith_eq_some.1 hi
    have hl := length_of_mem_widen hg (List.mem_of_getElem? ho)
    rw [List.length_insertIdx_of_le_length (by omega), hl]

theorem HasShape.insertColumn (hg : g.HasShape c r) {x : Nat} (hx : x ≤ c)
    (values : List (Option α)) :
    (g.insertColumn x values).HasShape (c + 1) (max r (max values.length 1)) := by
  refine ⟨?_, fun column hm => ?_, by omega⟩
  · rw [← hg.columnCount] at hx ⊢; exact columnCount_insertColumn values hx
  · simp only [Grid.insertColumn, hg.rowCount] at hm
    rw [List.mem_insertIdx (by simpa [Grid.heighten] using hg.columns ▸ hx)] at hm
    rcases hm with rfl | hm
    · rw [List.length_rightpad]; omega
    · rw [length_of_mem_heighten hg hm]; omega

theorem HasShape.eraseRow (hg : g.HasShape c r) {y : Nat} (hy : y < r) :
    (g.eraseRow y).HasShape (if r = 1 then 0 else c) (r - 1) := by
  have hne : g.columns ≠ [] := by
    intro hnil
    have hc := hg.columns
    rw [hnil, List.length_nil] at hc
    have := hg.flat; omega
  have hlen : ∀ column ∈ g.columns.map fun column => column.eraseIdx y, column.length = r - 1 := by
    intro column hm
    obtain ⟨old, ho, rfl⟩ := List.mem_map.1 hm
    have hl := hg.rows old ho
    rw [List.length_eraseIdx_of_lt (by omega), hl]
  simp only [Grid.eraseRow]
  rw [rowCount_of_lengths (by simpa using hne) hlen]
  by_cases h1 : r = 1
  · subst h1; simpa using hasShape_empty
  · have hf := hg.flat
    rw [if_neg (by omega), if_neg h1]
    exact ⟨by simpa using hg.columns, hlen, by omega⟩

theorem HasShape.eraseColumn (hg : g.HasShape c r) {x : Nat} (hx : x < c) :
    (g.eraseColumn x).HasShape (c - 1) (if c = 1 then 0 else r) := by
  have hl : (g.columns.eraseIdx x).length = c - 1 := by
    rw [List.length_eraseIdx_of_lt (by rw [hg.columns]; exact hx), hg.columns]
  refine ⟨hl, fun column hm => ?_, ?_⟩
  · have hpos : 0 < (g.columns.eraseIdx x).length := List.length_pos_of_mem hm
    rw [if_neg (by omega)]
    exact hg.rows column (List.mem_of_mem_eraseIdx hm)
  · have := hg.flat
    split <;> omega

theorem swapAt_perm {β : Type} (i j : Nat) (l : List β) : (swapAt i j l).Perm l := by
  unfold swapAt
  split
  · next a b ha hb =>
    obtain ⟨hi, rfl⟩ := List.getElem?_eq_some_iff.1 ha
    obtain ⟨hj, rfl⟩ := List.getElem?_eq_some_iff.1 hb
    exact List.set_set_perm hi hj
  · exact .refl l

theorem HasShape.swapRows (hg : g.HasShape c r) (y1 y2 : Nat) :
    (g.swapRows y1 y2).HasShape c r := by
  refine ⟨by simpa [Grid.swapRows] using hg.columns, fun column hm => ?_, hg.flat⟩
  obtain ⟨old, ho, rfl⟩ := List.mem_map.1 hm
  rw [length_swapAt, hg.rows old ho]

theorem HasShape.swapColumns (hg : g.HasShape c r) (x1 x2 : Nat) :
    (g.swapColumns x1 x2).HasShape c r :=
  ⟨by simpa [Grid.swapColumns] using hg.columns,
    fun column hm => hg.rows column ((swapAt_perm x1 x2 g.columns).mem_iff.1 hm), hg.flat⟩

theorem HasShape.swapCells (hg : g.HasShape c r) (a b : Position) :
    (g.swapCells a b).HasShape c r :=
  (hg.setCell _ _ _).setCell _ _ _

theorem HasShape.reverseX (hg : g.HasShape c r) : g.reverseX.HasShape c r :=
  ⟨by simpa [Grid.reverseX] using hg.columns,
    fun column hm => hg.rows column (List.mem_reverse.1 hm), hg.flat⟩

theorem HasShape.reverseY (hg : g.HasShape c r) : g.reverseY.HasShape c r := by
  refine ⟨by simpa [Grid.reverseY] using hg.columns, fun column hm => ?_, hg.flat⟩
  obtain ⟨old, ho, rfl⟩ := List.mem_map.1 hm
  rw [List.length_reverse, hg.rows old ho]

theorem HasShape.flip (hg : g.HasShape c r) : g.flip.HasShape r c := by
  refine ⟨?_, fun column hm => ?_, hg.flat.symm⟩
  · rw [← hg.rowCount]; exact length_rows g
  · simp only [Grid.flip, rows_eq_map_row, List.mem_map] at hm
    obtain ⟨y, -, rfl⟩ := hm
    rw [length_row, hg.columnCount]

/-! ## Rectangular grids stay rectangular -/

section
variable {axis : Axis} {i : Nat}

theorem Rectangular.setCell (hg : g.Rectangular) (x y : Nat) (value : Option α) :
    (g.setCell x y value).Rectangular :=
  (hg.hasShape.setCell x y value).rectangular

theorem Rectangular.insert (hg : g.Rectangular) (hi : i ≤ g.count axis)
    (values : List (Option α)) : (g.insert axis i values).Rectangular := by
  cases axis
  · exact (hg.hasShape.insertColumn hi values).rectangular
  · exact (hg.hasShape.insertRow hi values).rectangular

theorem Rectangular.erase (hg : g.Rectangular) (hi : i < g.count axis) :
    (g.erase axis i).Rectangular := by
  cases axis
  · exact (hg.hasShape.eraseColumn hi).rectangular
  · exact (hg.hasShape.eraseRow hi).rectangular

theorem Rectangular.stretch (hg : g.Rectangular) (hne : 0 < g.columnCount) (axis : Axis) (n : Nat) :
    (g.stretch axis n).Rectangular := by
  cases axis
  · exact (hg.hasShape.widen hne n).rectangular
  · exact (hg.hasShape.heighten hne n).rectangular

theorem Rectangular.reverse (hg : g.Rectangular) (axis : Axis) :
    (g.reverse axis).Rectangular := by
  cases axis
  · exact hg.hasShape.reverseX.rectangular
  · exact hg.hasShape.reverseY.rectangular

theorem Rectangular.flip (hg : g.Rectangular) : g.flip.Rectangular := hg.hasShape.flip.rectangular

theorem Rectangular.swap (hg : g.Rectangular) (axis : Axis) (i j : Nat) :
    (g.swap axis i j).Rectangular := by
  cases axis
  · exact (hg.hasShape.swapColumns i j).rectangular
  · exact (hg.hasShape.swapRows i j).rectangular

theorem Rectangular.swapCells (hg : g.Rectangular) (a b : Position) :
    (g.swapCells a b).Rectangular :=
  (hg.hasShape.swapCells a b).rectangular

end

end ElasticGrid.Grid
