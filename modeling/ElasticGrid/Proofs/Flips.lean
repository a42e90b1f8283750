import ElasticGrid.Proofs.Outcome

/-!
# Flipped grids

Rows are stored in another way than columns, and each operation is written twice. On
rectangular grids the two agree: what an operation does along one axis is what it does
along the other axis of the flipped grid. This is shown for rows, cell by cell; for
columns it follows, because a flip undoes itself.
-/

namespace ElasticGrid.Grid

variable {α : Type} {g : Grid α} {c r : Nat} {axis : Axis} {i j n : Nat}

theorem HasShape.flip_flip (hg : g.HasShape c r) : g.flip.flip = g :=
  hg.flip.flip.ext hg fun x _ y _ => by rw [hg.flip.cell_flip, hg.cell_flip]

theorem Rectangular.flip_flip (hg : g.Rectangular) : g.flip.flip = g := hg.hasShape.flip_flip

theorem Rectangular.count_flip (hg : g.Rectangular) (axis : Axis) :
    g.flip.count axis.cross = g.count axis := by
  cases axis
  · exact hg.hasShape.flip.rowCount
  · exact g.columnCount_flip

theorem Rectangular.size_flip (hg : g.Rectangular) : g.flip.size = g.size.cross := by
  rw [hg.hasShape.flip.size_eq]; rfl

theorem Rectangular.isEmpty_flip (hg : g.Rectangular) : g.flip.isEmpty = g.isEmpty := by
  rw [Bool.eq_iff_iff, isEmpty_iff_columnCount, isEmpty_iff_columnCount, columnCount_flip,
    hg.columnCount_eq_zero_iff]

theorem Rectangular.lines_flip (hg : g.Rectangular) (axis : Axis) :
    g.flip.lines axis.cross = g.lines axis := by
  cases axis
  · exact congrArg Grid.columns hg.flip_flip
  · rfl

theorem lines_getD (g : Grid α) (hi : i < g.count axis) :
    (g.lines axis).getD i [] = g.line axis i := by
  cases axis
  · rfl
  · have hi : i < g.rowCount := hi
    rw [lines, rows_eq_map_row, List.getD_eq_getElem?_getD, List.getElem?_map,
      List.getElem?_range hi]
    rfl

theorem Rectangular.line_flip (hg : g.Rectangular) (hi : i < g.count axis) :
    g.flip.line axis.cross i = g.line axis i := by
  rw [← lines_getD g hi, ← lines_getD g.flip (by rwa [hg.count_flip]), hg.lines_flip]

/-! ## Operations -/

theorem HasShape.flip_heighten (hg : g.HasShape c r) (hc : 0 < c) (n : Nat) :
    (g.heighten n).flip = g.flip.widen n := by
  have hs := hg.heighten hc n
  refine hs.flip.ext (hg.flip.widen (by have := hg.flat; omega) n) fun x _ y _ => ?_
  rw [hs.cell_flip, cell_heighten, cell_widen, hg.cell_flip]

theorem HasShape.flip_insertRow (hg : g.HasShape c r) (hi : i ≤ r) (values : List (Option α)) :
    (g.insertRow i values).flip = g.flip.insertColumn i values := by
  have hs := hg.insertRow hi values
  refine hs.flip.ext (hg.flip.insertColumn hi values) fun x _ y _ => ?_
  rw [hs.cell_flip, hg.cell_insertRow hi, cell_insertColumn _ (by rwa [hg.flip.columnCount])]
  simp only [hg.cell_flip]

theorem HasShape.flip_eraseRow (hg : g.HasShape c r) (hi : i < r) :
    (g.eraseRow i).flip = g.flip.eraseColumn i := by
  have hs := hg.eraseRow hi
  refine hs.flip.ext (hg.flip.eraseColumn hi) fun x _ y _ => ?_
  rw [hs.cell_flip, hg.cell_eraseRow hi, cell_eraseColumn, hg.cell_flip, hg.cell_flip]

theorem HasShape.flip_swapRows (hg : g.HasShape c r) (hi : i < r) (hj : j < r) :
    (g.swapRows i j).flip = g.flip.swapColumns i j := by
  have hs := hg.swapRows i j
  refine hs.flip.ext (hg.flip.swapColumns i j) fun x _ y _ => ?_
  rw [hs.cell_flip, hg.cell_swapRows hi hj, hg.flip.cell_swapColumns hi hj, hg.cell_flip]

theorem HasShape.flip_reverseY (hg : g.HasShape c r) : g.reverseY.flip = g.flip.reverseX := by
  refine hg.reverseY.flip.ext hg.flip.reverseX fun x hx y _ => ?_
  rw [hg.reverseY.cell_flip, hg.cell_reverseY _ hx, hg.flip.cell_reverseX hx, hg.cell_flip]

theorem HasShape.flip_packRows (hg : g.HasShape c r) : g.packRows.flip = g.flip.packColumns := by
  refine hg.packRows.flip.ext hg.flip.packColumns fun x _ y _ => ?_
  rw [hg.packRows.cell_flip, hg.cell_packRows, cell_packColumns, hg.cell_flip]

/-- From rows to columns: what a flip makes of one grid it makes of the other one. -/
theorem Rectangular.flip_of_flip {h : Grid α} (hg : g.Rectangular) (hflip : g.flip = h) :
    h.flip = g := hflip ▸ hg.flip_flip

theorem Rectangular.columnCount_flip_pos (hg : g.Rectangular) (hne : 0 < g.columnCount) :
    0 < g.flip.columnCount := by
  have := hg.columnCount_eq_zero_iff
  rw [columnCount_flip]; omega

theorem Rectangular.flip_stretch (hg : g.Rectangular) (hne : 0 < g.columnCount) (axis : Axis)
    (n : Nat) : (g.stretch axis n).flip = g.flip.stretch axis.cross n := by
  cases axis
  · have hne' := hg.columnCount_flip_pos hne
    refine (hg.flip.stretch hne' .row n).flip_of_flip ?_
    exact (hg.flip.hasShape.flip_heighten hne' n).trans (by rw [hg.flip_flip]; rfl)
  · exact hg.hasShape.flip_heighten hne n

theorem Rectangular.flip_insert (hg : g.Rectangular) (hi : i ≤ g.count axis)
    (values : List (Option α)) :
    (g.insert axis i values).flip = g.flip.insert axis.cross i values := by
  cases axis
  · rw [← hg.count_flip] at hi
    refine (hg.flip.insert hi values).flip_of_flip ?_
    exact (hg.flip.hasShape.flip_insertRow hi values).trans (by rw [hg.flip_flip]; rfl)
  · exact hg.hasShape.flip_insertRow hi values

theorem Rectangular.flip_erase (hg : g.Rectangular) (hi : i < g.count axis) :
    (g.erase axis i).flip = g.flip.erase axis.cross i := by
  cases axis
  · rw [← hg.count_flip] at hi
    refine (hg.flip.erase hi).flip_of_flip ?_
    exact (hg.flip.hasShape.flip_eraseRow hi).trans (by rw [hg.flip_flip]; rfl)
  · exact hg.hasShape.flip_eraseRow hi

theorem Rectangular.flip_swap (hg : g.Rectangular) (hi : i < g.count axis)
    (hj : j < g.count axis) : (g.swap axis i j).flip = g.flip.swap axis.cross i j := by
  cases axis
  · rw [← hg.count_flip] at hi hj
    refine (hg.flip.swap .row i j).flip_of_flip ?_
    exact (hg.flip.hasShape.flip_swapRows hi hj).trans (by rw [hg.flip_flip]; rfl)
  · exact hg.hasShape.flip_swapRows hi hj

theorem Rectangular.flip_reverse (hg : g.Rectangular) (axis : Axis) :
    (g.reverse axis).flip = g.flip.reverse axis.cross := by
  cases axis
  · refine (hg.flip.reverse .row).flip_of_flip ?_
    exact hg.flip.hasShape.flip_reverseY.trans (by rw [hg.flip_flip]; rfl)
  · exact hg.hasShape.flip_reverseY

theorem Rectangular.flip_pack (hg : g.Rectangular) (axis : Axis) :
    (g.pack axis).flip = g.flip.pack axis.cross := by
  cases axis
  · refine (hg.flip.pack .row).flip_of_flip ?_
    exact hg.flip.hasShape.flip_packRows.trans (by rw [hg.flip_flip]; rfl)
  · exact hg.hasShape.flip_packRows

theorem Rectangular.flip_packIf (hg : g.Rectangular) (axis : Axis) (wanted : Bool) :
    (g.packIf axis wanted).flip = g.flip.packIf axis.cross wanted := by
  cases wanted
  · rfl
  · exact hg.flip_pack axis

theorem Rectangular.flip_replace (hg : g.Rectangular) (hi : i < g.count axis)
    (values : List (Option α)) :
    (g.replace axis i values).flip = g.flip.replace axis.cross i values := by
  have hslot := hg.le_count_erase hi
  have herase := hg.erase hi
  rw [Grid.replace, (herase.insert hslot values).flip_stretch
    (herase.columnCount_insert_pos hslot values), herase.flip_insert hslot, hg.flip_erase hi,
    Grid.replace, hg.count_flip axis.cross]

/-- Packing changes no cell, so neither order of the two axes takes more lines away. -/
theorem HasShape.packRows_packColumns (hg : g.HasShape c r) :
    g.packColumns.packRows = g.packRows.packColumns := by
  have hrow : g.packColumns.packedCount .row = g.packedCount .row :=
    hg.packColumns.packedCount_congr hg (fun x y => by rw [cell_packColumns]) .row
  have hcolumn : g.packRows.packedCount .column = g.packedCount .column :=
    hg.packRows.packedCount_congr hg (fun x y => by rw [hg.cell_packRows]) .column
  have hblank : g.packedCount .column = 0 ↔ g.packedCount .row = 0 :=
    (hg.packedCount_eq_zero_iff .column).trans (hg.packedCount_eq_zero_iff .row).symm
  have hleft := hg.packColumns.packRows
  have hright := hg.packRows.packColumns
  rw [hrow] at hleft
  rw [hcolumn] at hright
  have hc : (if g.packedCount .row = 0 then 0 else g.packedCount .column) =
      g.packedCount .column := by split <;> omega
  have hr : (if g.packedCount .column = 0 then 0 else g.packedCount .row) =
      g.packedCount .row := by split <;> omega
  rw [hc] at hleft
  rw [hr] at hright
  refine hleft.ext hright fun x _ y _ => ?_
  rw [hg.packColumns.cell_packRows, cell_packColumns, cell_packColumns, hg.cell_packRows]

theorem Rectangular.packIf_packIf (hg : g.Rectangular) (rows columns : Bool) :
    (g.packIf .column columns).packIf .row rows =
      (g.packIf .row rows).packIf .column columns := by
  cases rows <;> cases columns
  · rfl
  · rfl
  · rfl
  · exact hg.hasShape.packRows_packColumns

/-- Packing the flipped grid with the two wishes exchanged is packing the grid. -/
theorem Rectangular.flip_packIf_packIf (hg : g.Rectangular) (rows columns : Bool) :
    ((g.packIf .row rows).packIf .column columns).flip =
      (g.flip.packIf .row columns).packIf .column rows := by
  rw [(hg.packIf .row rows).flip_packIf, hg.flip_packIf]
  exact hg.flip.packIf_packIf columns rows

end ElasticGrid.Grid
