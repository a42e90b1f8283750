import ElasticGrid.Proofs.Cells

/-!
# Packed grids

Packing keeps the lines up to the last one that holds a value. `packedCount_le_iff`
says so without a list: at most `n` lines are kept exactly when all cells from line `n`
on are absent. Hence packing changes no cell, only the shape.
-/

namespace ElasticGrid.Grid

variable {α : Type} {g : Grid α} {c r : Nat}

theorem isBlankLine_iff {cells : List (Option α)} :
    isBlankLine cells ↔ ∀ i, cells.getD i none = none := by
  simp only [isBlankLine, List.all_eq_true, Option.isNone_iff_eq_none,
    List.getD_eq_getElem?_getD]
  refine ⟨fun hall i => ?_, fun hall cell hm => ?_⟩
  · cases hi : cells[i]? with
    | none => rfl
    | some cell => exact hall cell (List.mem_of_getElem? hi)
  · obtain ⟨i, hi⟩ := List.mem_iff_getElem?.1 hm
    simpa [hi] using hall i

theorem packedCount_column_le_iff {n : Nat} :
    g.packedCount .column ≤ n ↔ ∀ x y, n ≤ x → g.cell x y = none := by
  refine length_dropTrailing_le_iff.trans ⟨fun hall x y hx => ?_, fun hall x column hx hc => ?_⟩
  · rw [cell, List.getD_eq_getElem?_getD (l := g.columns)]
    cases hc : g.columns[x]? with
    | none => simp
    | some column => exact isBlankLine_iff.1 (hall x column hx hc) y
  · refine isBlankLine_iff.2 fun y => ?_
    have := hall x y hx
    rwa [cell, List.getD_eq_getElem?_getD (l := g.columns), show g.columns[x]? = some column from hc]
      at this

theorem HasShape.packedCount_row_le_iff (hg : g.HasShape c r) {n : Nat} :
    g.packedCount .row ≤ n ↔ ∀ x y, n ≤ y → g.cell x y = none := by
  have hflip : g.packedCount .row = g.flip.packedCount .column := rfl
  rw [hflip, packedCount_column_le_iff]
  refine ⟨fun hall x y hy => ?_, fun hall x y hx => ?_⟩
  · rw [← hg.cell_flip, hall y x hy]
  · rw [hg.cell_flip, hall y x hx]

theorem HasShape.packedCount_column_le (hg : g.HasShape c r) : g.packedCount .column ≤ c := by
  rw [← hg.columnCount]; exact packedCount_le_count g .column

theorem HasShape.packedCount_row_le (hg : g.HasShape c r) : g.packedCount .row ≤ r := by
  rw [← hg.rowCount]; exact packedCount_le_count g .row

/-- Without a value no line is kept, along either axis. -/
theorem HasShape.packedCount_eq_zero_iff (hg : g.HasShape c r) (axis : Axis) :
    g.packedCount axis = 0 ↔ ∀ x y, g.cell x y = none := by
  rw [← Nat.le_zero]
  cases axis
  · rw [packedCount_column_le_iff]; simp
  · rw [hg.packedCount_row_le_iff]; simp

theorem HasShape.packColumns (hg : g.HasShape c r) :
    g.packColumns.HasShape (g.packedCount .column) (if g.packedCount .column = 0 then 0 else r) := by
  have hl : g.packColumns.columns.length = g.packedCount .column := by
    have := hg.packedCount_column_le
    rw [Grid.packColumns, List.length_take, hg.columns]; omega
  refine ⟨hl, fun column hm => ?_, ?_⟩
  · have hpos : 0 < g.packColumns.columns.length := List.length_pos_of_mem hm
    rw [if_neg (by omega)]
    exact hg.rows column (List.mem_of_mem_take hm)
  · have := hg.packedCount_column_le; have := hg.flat
    split <;> omega

theorem HasShape.packRows (hg : g.HasShape c r) :
    g.packRows.HasShape (if g.packedCount .row = 0 then 0 else c) (g.packedCount .row) := by
  have hle := hg.packedCount_row_le
  have hf := hg.flat
  rw [Grid.packRows]
  by_cases h0 : g.packedCount .row = 0
  · simpa [h0] using hasShape_empty
  · simp only [h0, if_false]
    refine ⟨by simpa using hg.columns, fun column hm => ?_, by omega⟩
    obtain ⟨old, ho, rfl⟩ := List.mem_map.1 hm
    rw [List.length_take, hg.rows old ho]; omega

theorem Rectangular.pack (hg : g.Rectangular) (axis : Axis) : (g.pack axis).Rectangular := by
  cases axis
  · exact hg.hasShape.packColumns.rectangular
  · exact hg.hasShape.packRows.rectangular

theorem getD_take_nil {β : Type} (n x : Nat) (lists : List (List β)) :
    (lists.take n).getD x [] = if x < n then lists.getD x [] else [] := by
  simp only [List.getD_eq_getElem?_getD, List.getElem?_take]
  split <;> rfl

theorem cell_packColumns (g : Grid α) (x y : Nat) : g.packColumns.cell x y = g.cell x y := by
  rw [cell, Grid.packColumns, getD_take_nil]
  split
  · rfl
  · next hx =>
    rw [packedCount_column_le_iff.1 (Nat.le_refl _) x y (Nat.le_of_not_lt hx)]
    rfl

theorem HasShape.cell_packRows (hg : g.HasShape c r) (x y : Nat) :
    g.packRows.cell x y = g.cell x y := by
  by_cases hy : y < g.packedCount .row
  · rw [cell, Grid.packRows, if_neg (by omega), getD_map_nil _ (List.take_nil ..),
      List.getD_eq_getElem?_getD, List.getElem?_take_of_lt hy, ← List.getD_eq_getElem?_getD]
    rfl
  · rw [hg.packRows.cell_eq_none (.inr (by omega)),
      hg.packedCount_row_le_iff.1 (Nat.le_refl _) x y (by omega)]

/-- The number of lines kept depends on nothing but where cells are absent. -/
theorem HasShape.packedCount_congr {β : Type} {h : Grid β} {c' r' : Nat} (hg : g.HasShape c r)
    (hh : h.HasShape c' r') (hcell : ∀ x y, g.cell x y = none ↔ h.cell x y = none)
    (axis : Axis) : g.packedCount axis = h.packedCount axis := by
  have hle : ∀ n, g.packedCount axis ≤ n ↔ h.packedCount axis ≤ n := by
    intro n
    cases axis
    · simp only [packedCount_column_le_iff, hcell]
    · simp only [hg.packedCount_row_le_iff, hh.packedCount_row_le_iff, hcell]
  exact Nat.le_antisymm ((hle _).2 (Nat.le_refl _)) ((hle _).1 (Nat.le_refl _))

end ElasticGrid.Grid
