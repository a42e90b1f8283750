import ElasticGrid.Proofs.Flips
import Mathlib.Data.List.Forall2

/-!
# Alike grids

Two grids are alike under a relation of values if they have the same counts and if, at every
place, either both cells are absent or both hold values, which are related. No operation looks
at a value; at most it looks whether there is one. So operations keep grids alike, whatever
the relation is: with a function for the relation they commute with it, and with an equality
they cannot tell equal grids apart.
-/

namespace ElasticGrid

variable {α β : Type} {R : α → β → Prop}

theorem eq_none_iff_of_rel {a : Option α} {b : Option β} (hab : Option.Rel R a b) :
    a = none ↔ b = none := by
  cases hab <;> simp

theorem map_eq_map_of_forall₂ {γ : Type} {f : α → γ} {f' : β → γ} {l : List α} {m : List β}
    (hlm : List.Forall₂ R l m) (hf : ∀ a b, R a b → f a = f' b) : l.map f = m.map f' := by
  induction hlm with
  | nil => rfl
  | cons hab _ ih => rw [List.map_cons, List.map_cons, hf _ _ hab, ih]

section
variable {l : List (Option α)} {m : List (Option β)}

theorem rel_getD (hlm : List.Forall₂ (Option.Rel R) l m) (i : Nat) :
    Option.Rel R (l.getD i none) (m.getD i none) := by
  induction hlm generalizing i with
  | nil => exact .none
  | cons hcell _ ih =>
    cases i with
    | zero => exact hcell
    | succ i => exact ih i

theorem forall₂_of_rel_getD (hlength : l.length = m.length)
    (hcell : ∀ i, Option.Rel R (l.getD i none) (m.getD i none)) :
    List.Forall₂ (Option.Rel R) l m := by
  refine List.forall₂_of_length_eq_of_get hlength fun i hi hi' => ?_
  simpa [List.getD_eq_getElem?_getD, hi, hi'] using hcell i

end

namespace Grid

theorem cell_blank (c r x y : Nat) : (blank c r : Grid α).cell x y = none := by
  simp only [blank, cell, List.getD_eq_getElem?_getD, List.getElem?_replicate]
  by_cases hx : x < c
  · by_cases hy : y < r <;> simp [hx, hy]
  · simp [hx]

structure Alike (R : α → β → Prop) (g : Grid α) (h : Grid β) : Prop where
  left : g.Rectangular
  right : h.Rectangular
  size : g.size = h.size
  cell : ∀ x y, Option.Rel R (g.cell x y) (h.cell x y)

namespace Alike

variable {g : Grid α} {h : Grid β} {c r : Nat} {axis : Axis} {i j n : Nat}

theorem of_shapes (hg : g.HasShape c r) (hh : h.HasShape c r)
    (hcell : ∀ x < c, ∀ y < r, Option.Rel R (g.cell x y) (h.cell x y)) : g.Alike R h where
  left := hg.rectangular
  right := hh.rectangular
  size := by rw [hg.size_eq, hh.size_eq]
  cell x y := by
    by_cases hin : x < c ∧ y < r
    · exact hcell x hin.1 y hin.2
    · rw [hg.cell_eq_none (by omega), hh.cell_eq_none (by omega)]
      exact .none

theorem count_eq (hgh : g.Alike R h) (axis : Axis) : g.count axis = h.count axis := by
  cases axis
  · exact congrArg Position.x hgh.size
  · exact congrArg Position.y hgh.size

theorem hasShape (hgh : g.Alike R h) :
    g.HasShape g.columnCount g.rowCount ∧ h.HasShape g.columnCount g.rowCount := by
  refine ⟨hgh.left.hasShape, ?_⟩
  have hc : g.columnCount = h.columnCount := hgh.count_eq .column
  have hr : g.rowCount = h.rowCount := hgh.count_eq .row
  rw [hc, hr]
  exact hgh.right.hasShape

theorem isEmpty_eq (hgh : g.Alike R h) : g.isEmpty = h.isEmpty := by
  have hc : g.columnCount = h.columnCount := hgh.count_eq .column
  rw [Bool.eq_iff_iff, isEmpty_iff_columnCount, isEmpty_iff_columnCount, hc]

theorem empty : (Grid.empty : Grid α).Alike R (Grid.empty : Grid β) :=
  of_shapes hasShape_empty hasShape_empty fun _ hx => absurd hx (Nat.not_lt_zero _)

theorem blank (hflat : c = 0 ↔ r = 0) :
    (Grid.blank c r : Grid α).Alike R (Grid.blank c r : Grid β) := by
  refine of_shapes (hasShape_blank hflat) (hasShape_blank hflat) fun x _ y _ => ?_
  rw [cell_blank, cell_blank]
  exact .none

/-! ## What keeps grids alike -/

theorem setCell (hgh : g.Alike R h) {x y : Nat} (hx : x < g.columnCount) (hy : y < g.rowCount)
    {v : Option α} {w : Option β} (hvw : Option.Rel R v w) :
    (g.setCell x y v).Alike R (h.setCell x y w) := by
  obtain ⟨hg, hh⟩ := hgh.hasShape
  refine of_shapes (hg.setCell x y v) (hh.setCell x y w) fun x' _ y' _ => ?_
  rw [hg.cell_setCell hx hy, hh.cell_setCell hx hy]
  split
  · exact hvw
  · exact hgh.cell x' y'

theorem insert (hgh : g.Alike R h) (hi : i ≤ g.count axis) {values : List (Option α)}
    {values' : List (Option β)} (hvalues : List.Forall₂ (Option.Rel R) values values') :
    (g.insert axis i values).Alike R (h.insert axis i values') := by
  obtain ⟨hg, hh⟩ := hgh.hasShape
  have hlength := hvalues.length_eq
  cases axis
  · have hs := hh.insertColumn hi values'
    rw [← hlength] at hs
    refine of_shapes (hg.insertColumn hi values) hs fun x _ y _ => ?_
    rw [Grid.insert, Grid.insert, cell_insertColumn g hi,
      cell_insertColumn h (by rwa [hh.columnCount])]
    split
    · exact hgh.cell x y
    · split
      · exact rel_getD hvalues y
      · exact hgh.cell (x - 1) y
  · have hs := hh.insertRow hi values'
    rw [← hlength] at hs
    refine of_shapes (hg.insertRow hi values) hs fun x _ y _ => ?_
    rw [Grid.insert, Grid.insert, hg.cell_insertRow hi, hh.cell_insertRow hi]
    split
    · exact hgh.cell x y
    · split
      · exact rel_getD hvalues x
      · exact hgh.cell x (y - 1)

theorem erase (hgh : g.Alike R h) (hi : i < g.count axis) :
    (g.erase axis i).Alike R (h.erase axis i) := by
  obtain ⟨hg, hh⟩ := hgh.hasShape
  cases axis
  · refine of_shapes (hg.eraseColumn hi) (hh.eraseColumn hi) fun x _ y _ => ?_
    rw [Grid.erase, Grid.erase, cell_eraseColumn, cell_eraseColumn]
    split
    · exact hgh.cell x y
    · exact hgh.cell (x + 1) y
  · refine of_shapes (hg.eraseRow hi) (hh.eraseRow hi) fun x _ y _ => ?_
    rw [Grid.erase, Grid.erase, hg.cell_eraseRow hi, hh.cell_eraseRow hi]
    split
    · exact hgh.cell x y
    · exact hgh.cell x (y + 1)

theorem stretch (hgh : g.Alike R h) (hne : 0 < g.columnCount) (axis : Axis) (n : Nat) :
    (g.stretch axis n).Alike R (h.stretch axis n) := by
  obtain ⟨hg, hh⟩ := hgh.hasShape
  cases axis
  · refine of_shapes (hg.widen hne n) (hh.widen hne n) fun x _ y _ => ?_
    rw [Grid.stretch, Grid.stretch, cell_widen, cell_widen]
    exact hgh.cell x y
  · refine of_shapes (hg.heighten hne n) (hh.heighten hne n) fun x _ y _ => ?_
    rw [Grid.stretch, Grid.stretch, cell_heighten, cell_heighten]
    exact hgh.cell x y

theorem replace (hgh : g.Alike R h) (hi : i < g.count axis) {values : List (Option α)}
    {values' : List (Option β)} (hvalues : List.Forall₂ (Option.Rel R) values values') :
    (g.replace axis i values).Alike R (h.replace axis i values') := by
  have hslot := hgh.left.le_count_erase hi
  have herase := hgh.erase hi
  rw [Grid.replace, Grid.replace, ← hgh.count_eq]
  exact (herase.insert hslot hvalues).stretch (herase.left.columnCount_insert_pos hslot values) _ _

theorem packedCount_eq (hgh : g.Alike R h) (axis : Axis) :
    g.packedCount axis = h.packedCount axis := by
  obtain ⟨hg, hh⟩ := hgh.hasShape
  exact hg.packedCount_congr hh (fun x y => eq_none_iff_of_rel (hgh.cell x y)) axis

theorem pack (hgh : g.Alike R h) (axis : Axis) : (g.pack axis).Alike R (h.pack axis) := by
  obtain ⟨hg, hh⟩ := hgh.hasShape
  have hcount := hgh.packedCount_eq axis
  cases axis
  · have hs := hh.packColumns
    rw [← hcount] at hs
    refine of_shapes hg.packColumns hs fun x _ y _ => ?_
    rw [Grid.pack, Grid.pack, cell_packColumns, cell_packColumns]
    exact hgh.cell x y
  · have hs := hh.packRows
    rw [← hcount] at hs
    refine of_shapes hg.packRows hs fun x _ y _ => ?_
    rw [Grid.pack, Grid.pack, hg.cell_packRows, hh.cell_packRows]
    exact hgh.cell x y

theorem packIf (hgh : g.Alike R h) (axis : Axis) (wanted : Bool) :
    (g.packIf axis wanted).Alike R (h.packIf axis wanted) := by
  cases wanted
  · exact hgh
  · exact hgh.pack axis

theorem flip (hgh : g.Alike R h) : g.flip.Alike R h.flip := by
  obtain ⟨hg, hh⟩ := hgh.hasShape
  refine of_shapes hg.flip hh.flip fun x _ y _ => ?_
  rw [hg.cell_flip, hh.cell_flip]
  exact hgh.cell y x

theorem reverse (hgh : g.Alike R h) (axis : Axis) : (g.reverse axis).Alike R (h.reverse axis) := by
  obtain ⟨hg, hh⟩ := hgh.hasShape
  cases axis
  · refine of_shapes hg.reverseX hh.reverseX fun x hx y _ => ?_
    rw [Grid.reverse, Grid.reverse, hg.cell_reverseX hx, hh.cell_reverseX hx]
    exact hgh.cell _ y
  · refine of_shapes hg.reverseY hh.reverseY fun x _ y hy => ?_
    rw [Grid.reverse, Grid.reverse, hg.cell_reverseY x hy, hh.cell_reverseY x hy]
    exact hgh.cell x _

theorem swap (hgh : g.Alike R h) (hi : i < g.count axis) (hj : j < g.count axis) :
    (g.swap axis i j).Alike R (h.swap axis i j) := by
  obtain ⟨hg, hh⟩ := hgh.hasShape
  cases axis
  · refine of_shapes (hg.swapColumns i j) (hh.swapColumns i j) fun x _ y _ => ?_
    rw [Grid.swap, Grid.swap, hg.cell_swapColumns hi hj, hh.cell_swapColumns hi hj]
    exact hgh.cell _ y
  · refine of_shapes (hg.swapRows i j) (hh.swapRows i j) fun x _ y _ => ?_
    rw [Grid.swap, Grid.swap, hg.cell_swapRows hi hj, hh.cell_swapRows hi hj]
    exact hgh.cell x _

theorem swapCells (hgh : g.Alike R h) {p q : Position} (hpx : p.x < g.columnCount)
    (hpy : p.y < g.rowCount) (hqx : q.x < g.columnCount) (hqy : q.y < g.rowCount) :
    (g.swapCells p q).Alike R (h.swapCells p q) := by
  have hfirst := hgh.setCell hpx hpy (hgh.cell q.x q.y)
  have hshape := hgh.left.hasShape.setCell p.x p.y (g.cell q.x q.y)
  refine hfirst.setCell ?_ ?_ (hgh.cell p.x p.y)
  · rwa [hshape.columnCount]
  · rwa [hshape.rowCount]

/-! ## Views -/

theorem line (hgh : g.Alike R h) (hi : i < g.count axis) :
    List.Forall₂ (Option.Rel R) (g.line axis i) (h.line axis i) := by
  have hlength : (g.line axis i).length = (h.line axis i).length := by
    rw [hgh.left.length_line hi, hgh.right.length_line (by rwa [← hgh.count_eq]), hgh.count_eq]
  refine forall₂_of_rel_getD hlength fun k => ?_
  cases axis
  · exact hgh.cell i k
  · rw [Grid.line, Grid.line, getD_row, getD_row]
    exact hgh.cell k i

theorem lines (hgh : g.Alike R h) (axis : Axis) :
    List.Forall₂ (List.Forall₂ (Option.Rel R)) (g.lines axis) (h.lines axis) := by
  have hlength : ∀ {γ : Type} (k : Grid γ), (k.lines axis).length = k.count axis := by
    intro γ k
    cases axis
    · rfl
    · exact length_rows k
  have hcount := hgh.count_eq axis
  refine List.forall₂_of_length_eq_of_get (by rw [hlength, hlength, hcount]) fun i hi hi' => ?_
  rw [hlength] at hi hi'
  have hline := hgh.line hi
  rw [← lines_getD g hi, ← lines_getD h hi'] at hline
  simpa [List.getD_eq_getElem?_getD, hlength, hi, hi'] using hline

theorem entries (hgh : g.Alike R h) :
    List.Forall₂ (fun e e' => e.1 = e'.1 ∧ Option.Rel R e.2 e'.2) g.entries h.entries := by
  obtain ⟨hg, hh⟩ := hgh.hasShape
  have hregion : h.region = g.region := by simp only [region, hgh.size]
  rw [hg.entries_eq, hh.entries_eq, hregion, List.forall₂_map_left_iff, List.forall₂_map_right_iff,
    List.forall₂_same]
  exact fun p _ => ⟨rfl, hgh.cell p.x p.y⟩

theorem values (hgh : g.Alike R h) : List.Forall₂ (Option.Rel R) g.values h.values := by
  rw [Grid.values_eq_map_entries, Grid.values_eq_map_entries, List.forall₂_map_left_iff,
    List.forall₂_map_right_iff]
  exact hgh.entries.imp fun _ _ he => he.2

end Alike

/-- Of two rectangular grids, those are alike that have one size and the same values in a row. -/
theorem alike_iff_values {g : Grid α} {h : Grid β} (hg : g.Rectangular) (hh : h.Rectangular) :
    g.Alike R h ↔ g.size = h.size ∧ List.Forall₂ (Option.Rel R) g.values h.values := by
  refine ⟨fun hgh => ⟨hgh.size, hgh.values⟩, fun ⟨hsize, hvalues⟩ => ?_⟩
  have hregion : h.region = g.region := by simp only [region, hsize]
  rw [values_eq_map_entries, values_eq_map_entries, hg.hasShape.entries_eq, hh.hasShape.entries_eq,
    hregion, List.map_map, List.map_map, List.forall₂_map_left_iff, List.forall₂_map_right_iff,
    List.forall₂_same] at hvalues
  have hhs : h.HasShape g.columnCount g.rowCount := by
    have hs := hh.hasShape
    rwa [show h.columnCount = g.columnCount from congrArg Position.x hsize.symm,
      show h.rowCount = g.rowCount from congrArg Position.y hsize.symm] at hs
  exact .of_shapes hg.hasShape hhs fun x hx y hy => hvalues ⟨x, y⟩ (mem_region.2 ⟨hx, hy⟩)

end Grid

end ElasticGrid
