import ElasticGrid.Proofs.Flips
import Mathlib.Data.List.GetD
import Mathlib.Data.List.InsertIdx

/-!
# Grids line by line

The lines along one axis say everything about a grid (`Rectangular.eq_of_lines`), so it is enough
to know what an operation makes of them. A line that goes in or out goes in or out of a list;
afterwards the lines are filled up to one length. Growth across an axis does nothing but fill up,
and packing drops what is blank at the end.

This is shown for columns, which are the lines that a grid holds. For rows it follows by a flip.
-/

namespace ElasticGrid

variable {α : Type}

/-- The position of the cell with index `i` along the axis and index `j` in its line. -/
def Axis.position : Axis → Nat → Nat → Position
  | column, i, j => ⟨i, j⟩
  | row, i, j => ⟨j, i⟩

theorem Axis.position_cross (axis : Axis) (i j : Nat) :
    axis.cross.position j i = axis.position i j := by
  cases axis <;> rfl

/-- The lines, each with absent cells at its end until there are `n`. -/
def filled (n : Nat) (lines : List (List (Option α))) : List (List (Option α)) :=
  lines.map fun line => line.rightpad n none

section
variable {lines : List (List (Option α))} {i m n : Nat}

theorem filled_filled (m n : Nat) (lines : List (List (Option α))) :
    filled n (filled m lines) = filled (max m n) lines := by
  rw [filled, filled, filled, List.map_map]
  refine List.map_congr_left fun line _ => ?_
  show (line.rightpad m none).rightpad n none = line.rightpad (max m n) none
  rcases Nat.le_total m n with hmn | hnm
  · rw [Grid.rightpad_rightpad hmn, Nat.max_eq_right hmn]
  · rw [Nat.max_eq_left hnm]
    exact Grid.rightpad_of_le (by rw [List.length_rightpad]; omega)

theorem filled_of_lengths (hn : ∀ line ∈ lines, line.length = n) : filled n lines = lines := by
  have hsame : ∀ line ∈ lines, line.rightpad n none = id line := fun line hm =>
    Grid.rightpad_of_le (Nat.le_of_eq (hn line hm).symm)
  rw [filled, List.map_congr_left hsame, List.map_id]

theorem eraseIdx_filled (n i : Nat) (lines : List (List (Option α))) :
    (filled n lines).eraseIdx i = filled n (lines.eraseIdx i) :=
  List.eraseIdx_map _ lines i

theorem getD_filled (hi : i < lines.length) (n : Nat) :
    (filled n lines).getD i [] = (lines.getD i []).rightpad n none := by
  rw [filled, List.getD_eq_getElem _ _ (by rwa [List.length_map]), List.getElem_map,
    List.getD_eq_getElem lines [] hi]

/-- No cell shows how long the lines are. -/
theorem getD_getD_filled (n : Nat) (lines : List (List (Option α))) (i j : Nat) :
    ((filled n lines).getD i []).getD j none = (lines.getD i []).getD j none := by
  by_cases hi : i < lines.length
  · rw [getD_filled hi, Grid.getD_rightpad_none]
  · have hle : lines.length ≤ i := Nat.le_of_not_lt hi
    have hle' : (filled n lines).length ≤ i := by rwa [filled, List.length_map]
    rw [List.getD_eq_default lines [] hle, List.getD_eq_default (filled n lines) [] hle']

end

namespace Grid

variable {g h : Grid α} {axis : Axis} {i n : Nat}

/-! ## Lines and cells -/

/-- The cell at a position; outside of the grid it is absent. -/
def get (g : Grid α) (p : Position) : Option α := g.cell p.x p.y

theorem get_stretch (g : Grid α) (axis : Axis) (n : Nat) (p : Position) :
    (g.stretch axis n).get p = g.get p := by
  cases axis
  · exact cell_widen n g p.x p.y
  · exact cell_heighten n g p.x p.y

theorem Rectangular.lines_cell (hg : g.Rectangular) (axis : Axis) (i j : Nat) :
    ((g.lines axis).getD i []).getD j none =
      g.cell (axis.position i j).x (axis.position i j).y := by
  cases axis
  · rfl
  · exact hg.hasShape.cell_flip i j

/-- The lines along one axis determine a grid. -/
theorem Rectangular.eq_of_lines (hg : g.Rectangular) (hh : h.Rectangular)
    (hlines : g.lines axis = h.lines axis) : g = h := by
  cases axis
  · exact congrArg Grid.mk hlines
  · rw [← hg.flip_flip, ← hh.flip_flip]
    exact congrArg (fun rows => (Grid.mk rows).flip) hlines

theorem Rectangular.eq_of_get (hg : g.Rectangular) (hh : h.Rectangular) (axis : Axis)
    (hcount : g.count axis = h.count axis) (hcross : g.count axis.cross = h.count axis.cross)
    (hget : ∀ i j, g.get (axis.position i j) = h.get (axis.position i j)) : g = h := by
  have hs := hg.hasShape
  have hs' := hh.hasShape
  cases axis
  · rw [← show g.columnCount = h.columnCount from hcount,
      ← show g.rowCount = h.rowCount from hcross] at hs'
    exact hs.ext hs' fun x _ y _ => hget x y
  · rw [← show g.rowCount = h.rowCount from hcount,
      ← show g.columnCount = h.columnCount from hcross] at hs'
    exact hs.ext hs' fun x _ y _ => hget y x

theorem length_lines (g : Grid α) (axis : Axis) : (g.lines axis).length = g.count axis := by
  cases axis
  · rfl
  · exact length_rows g

theorem Rectangular.length_of_mem_lines (hg : g.Rectangular) {line : List (Option α)}
    (hm : line ∈ g.lines axis) : line.length = g.count axis.cross := by
  obtain ⟨i, hi, rfl⟩ := List.getElem_of_mem hm
  have hlt : i < g.count axis := by rwa [← length_lines]
  have hline := lines_getD g hlt
  rw [List.getD_eq_getElem?_getD, List.getElem?_eq_getElem hi, Option.getD_some] at hline
  rw [hline, hg.length_line hlt]

theorem Rectangular.filled_lines (hg : g.Rectangular) (axis : Axis) :
    filled (g.count axis.cross) (g.lines axis) = g.lines axis :=
  filled_of_lengths fun _ hm => hg.length_of_mem_lines hm

theorem Rectangular.eq_empty_iff (hg : g.Rectangular) (axis : Axis) :
    g = empty ↔ g.count axis = 0 := by
  refine ⟨fun h => by subst h; cases axis <;> rfl, fun hcount => ?_⟩
  have hlines : g.lines axis = (empty : Grid α).lines axis := by
    rw [List.eq_nil_of_length_eq_zero ((g.length_lines axis).trans hcount)]
    cases axis <;> rfl
  exact hg.eq_of_lines rectangular_empty hlines

/-! ## How many lines there are -/

theorem Rectangular.count_insert (hg : g.Rectangular) (hi : i ≤ g.count axis)
    (values : List (Option α)) : (g.insert axis i values).count axis = g.count axis + 1 := by
  cases axis
  · exact (hg.hasShape.insertColumn hi values).columnCount
  · exact (hg.hasShape.insertRow hi values).rowCount

theorem Rectangular.lt_count_insert (hg : g.Rectangular) (hi : i ≤ g.count axis)
    (values : List (Option α)) : i < (g.insert axis i values).count axis := by
  rw [hg.count_insert hi]
  exact Nat.lt_succ_of_le hi

theorem Rectangular.count_cross_insert (hg : g.Rectangular) (hi : i ≤ g.count axis)
    (values : List (Option α)) :
    (g.insert axis i values).count axis.cross =
      max (g.count axis.cross) (max values.length 1) := by
  cases axis
  · exact (hg.hasShape.insertColumn hi values).rowCount
  · exact (hg.hasShape.insertRow hi values).columnCount

/-- When the only line goes, nothing is left across the axis. -/
theorem Rectangular.count_cross_erase (hg : g.Rectangular) (hi : i < g.count axis) :
    (g.erase axis i).count axis.cross = if g.count axis = 1 then 0 else g.count axis.cross := by
  cases axis
  · exact (hg.hasShape.eraseColumn hi).rowCount
  · exact (hg.hasShape.eraseRow hi).columnCount

theorem Rectangular.count_stretch (hg : g.Rectangular) (hne : 0 < g.columnCount) (axis : Axis)
    (n : Nat) : (g.stretch axis n).count axis = max n (g.count axis) := by
  cases axis
  · exact (hg.hasShape.widen hne n).columnCount
  · exact (hg.hasShape.heighten hne n).rowCount

theorem Rectangular.count_stretch_cross (hg : g.Rectangular) (hne : 0 < g.columnCount)
    (axis : Axis) (n : Nat) : (g.stretch axis.cross n).count axis = g.count axis := by
  cases axis
  · exact (hg.hasShape.heighten hne n).columnCount
  · exact (hg.hasShape.widen hne n).rowCount

theorem Rectangular.count_setCell (hg : g.Rectangular) (x y : Nat) (value : Option α)
    (axis : Axis) : (g.setCell x y value).count axis = g.count axis := by
  cases axis
  · exact (hg.hasShape.setCell x y value).columnCount
  · exact (hg.hasShape.setCell x y value).rowCount

theorem Rectangular.count_pos (hg : g.Rectangular) (hi : i < g.count axis) (other : Axis) :
    0 < g.count other := by
  have := hg.columnCount_eq_zero_iff
  cases axis <;> cases other <;> simp only [count] at hi ⊢ <;> omega

theorem Rectangular.count_reverse (hg : g.Rectangular) (axis other : Axis) :
    (g.reverse axis).count other = g.count other := by
  cases axis <;> cases other
  · exact hg.hasShape.reverseX.columnCount
  · exact hg.hasShape.reverseX.rowCount
  · exact hg.hasShape.reverseY.columnCount
  · exact hg.hasShape.reverseY.rowCount

theorem Rectangular.count_swap (hg : g.Rectangular) (axis other : Axis) (i j : Nat) :
    (g.swap axis i j).count other = g.count other := by
  cases axis <;> cases other
  · exact (hg.hasShape.swapColumns i j).columnCount
  · exact (hg.hasShape.swapColumns i j).rowCount
  · exact (hg.hasShape.swapRows i j).columnCount
  · exact (hg.hasShape.swapRows i j).rowCount

theorem Rectangular.count_pack (hg : g.Rectangular) (axis : Axis) :
    (g.pack axis).count axis = g.packedCount axis := by
  cases axis
  · exact hg.hasShape.packColumns.columnCount
  · exact hg.hasShape.packRows.rowCount

theorem Rectangular.count_packIf_le (hg : g.Rectangular) (axis : Axis) (wanted : Bool) :
    (g.packIf axis wanted).count axis ≤ g.count axis := by
  cases wanted
  · exact Nat.le_refl _
  · exact Nat.le_trans (Nat.le_of_eq (hg.count_pack axis)) (g.packedCount_le_count axis)

/-- Packing an axis empties nothing but a grid without values. -/
theorem Rectangular.columnCount_packIf_eq_zero_iff (hg : g.Rectangular) (axis : Axis)
    (wanted : Bool) :
    (g.packIf axis wanted).columnCount = 0 ↔
      g.columnCount = 0 ∨ wanted ∧ ∀ x y, g.cell x y = none := by
  cases wanted with
  | false => simp [Grid.packIf]
  | true =>
    have hblank : g.columnCount = 0 → ∀ x y, g.cell x y = none := fun hempty x y =>
      g.cell_of_columnCount_le (by omega) y
    have hpacked : (g.pack axis).columnCount = 0 ↔ g.packedCount axis = 0 := by
      rw [← hg.count_pack axis]
      cases axis
      · exact Iff.rfl
      · exact (hg.pack .row).columnCount_eq_zero_iff
    rw [Grid.packIf, if_pos rfl, hpacked, hg.hasShape.packedCount_eq_zero_iff]
    simpa using hblank

/-- Short of emptying a grid, packing one axis leaves the other one as it is. -/
theorem Rectangular.count_cross_packIf (hg : g.Rectangular) {wanted : Bool}
    (hne : (g.packIf axis wanted).columnCount ≠ 0) :
    (g.packIf axis wanted).count axis.cross = g.count axis.cross := by
  cases wanted
  · rfl
  · have hkept : g.packedCount axis ≠ 0 := by
      rw [← hg.count_pack axis]
      cases axis
      · exact hne
      · exact fun h => hne ((hg.pack .row).columnCount_eq_zero_iff.2 h)
    cases axis
    · exact hg.hasShape.packColumns.rowCount.trans (if_neg hkept)
    · exact hg.hasShape.packRows.columnCount.trans (if_neg hkept)

/-! ## What becomes of cells and lines -/

theorem Rectangular.get_reverse (hg : g.Rectangular) {k : Nat} (hk : k < g.count axis) (l : Nat) :
    (g.reverse axis).get (axis.position k l) = g.get (axis.position (g.count axis - 1 - k) l) := by
  cases axis
  · exact hg.hasShape.cell_reverseX hk l
  · exact hg.hasShape.cell_reverseY l hk

theorem Rectangular.get_swap (hg : g.Rectangular) {j : Nat} (hi : i < g.count axis)
    (hj : j < g.count axis) (k l : Nat) :
    (g.swap axis i j).get (axis.position k l) = g.get (axis.position (swapIndex i j k) l) := by
  cases axis
  · exact hg.hasShape.cell_swapColumns hi hj k l
  · exact hg.hasShape.cell_swapRows hi hj l k

theorem Rectangular.lines_insert (hg : g.Rectangular) (hi : i ≤ g.count axis)
    (values : List (Option α)) :
    (g.insert axis i values).lines axis =
      filled (max (g.count axis.cross) (max values.length 1))
        ((g.lines axis).insertIdx i values) := by
  cases axis
  · exact (List.map_insertIdx _ _ _ _).symm
  · rw [← (hg.insert hi values).lines_flip, hg.flip_insert hi, ← hg.lines_flip .row,
      ← hg.count_flip]
    exact (List.map_insertIdx _ _ _ _).symm

theorem Rectangular.lines_erase (hg : g.Rectangular) (hi : i < g.count axis) :
    (g.erase axis i).lines axis = (g.lines axis).eraseIdx i := by
  cases axis
  · rfl
  · rw [← (hg.erase hi).lines_flip, hg.flip_erase hi, ← hg.lines_flip .row]
    rfl

theorem Rectangular.lines_stretch_cross (hg : g.Rectangular) (hne : 0 < g.columnCount)
    (axis : Axis) (n : Nat) : (g.stretch axis.cross n).lines axis = filled n (g.lines axis) := by
  cases axis
  · rfl
  · rw [← (hg.stretch hne _ n).lines_flip, hg.flip_stretch hne, ← hg.lines_flip .row]
    rfl

/-- A line that is replaced by a longer one lets the other lines grow with it. -/
theorem Rectangular.lines_replace (hg : g.Rectangular) (hi : i < g.count axis)
    (values : List (Option α)) :
    (g.replace axis i values).lines axis =
      filled (max (g.count axis.cross) values.length) ((g.lines axis).set i values) := by
  have hslot := hg.le_count_erase hi
  have herase := hg.erase hi
  have hpos := hg.count_pos hi axis.cross
  have hne : i ≠ (g.lines axis).length := by rw [length_lines]; exact Nat.ne_of_lt hi
  rw [Grid.replace, (herase.insert hslot values).lines_stretch_cross
    (herase.columnCount_insert_pos hslot values), herase.lines_insert hslot, filled_filled,
    hg.lines_erase hi, List.insertIdx_eraseIdx_self hne, hg.count_cross_erase hi]
  congr 1
  split <;> omega

theorem Rectangular.lines_pack (hg : g.Rectangular) (axis : Axis) :
    (g.pack axis).lines axis = dropTrailing isBlankLine (g.lines axis) := by
  cases axis
  · exact take_length_dropTrailing isBlankLine g.columns
  · rw [← (hg.pack .row).lines_flip, hg.flip_pack, ← hg.lines_flip .row]
    exact take_length_dropTrailing isBlankLine g.flip.columns

end Grid

end ElasticGrid
