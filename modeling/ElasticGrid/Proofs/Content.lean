import ElasticGrid.Proofs.Flips
import Mathlib.Algebra.BigOperators.Group.Finset.Sigma
import Mathlib.Algebra.BigOperators.Group.List.Basic
import Mathlib.Algebra.Order.Group.Multiset
import Mathlib.Data.List.Perm.Basic

/-!
# The content of a grid

The content of a grid is the multiset of its values. It is the sum over all cells
(`HasShape.content_eq_sum`), so it only depends on the cells, and a flip keeps it. With
columns it is a sum over lists, in which the order does not matter; what holds of columns
holds of rows by a flip.
-/

namespace ElasticGrid

variable {α : Type}

def content (cells : List (Option α)) : Multiset α := ↑(cells.filterMap id)

@[simp] theorem content_nil : content ([] : List (Option α)) = 0 := rfl

theorem content_append (cells cells' : List (Option α)) :
    content (cells ++ cells') = content cells + content cells' := by
  rw [content, List.filterMap_append]; rfl

theorem content_singleton (cell : Option α) : content [cell] = ↑cell.toList := by
  cases cell <;> rfl

theorem content_eq_sum (cells : List (Option α)) :
    content cells = (cells.map fun cell => (↑cell.toList : Multiset α)).sum := by
  induction cells with
  | nil => rfl
  | cons cell cells ih =>
    rw [← List.singleton_append, content_append, content_singleton, ih, List.singleton_append,
      List.map_cons, List.sum_cons]

theorem content_flatten (lines : List (List (Option α))) :
    content lines.flatten = (lines.map content).sum := by
  induction lines with
  | nil => rfl
  | cons line lines ih => rw [List.flatten_cons, content_append, ih, List.map_cons, List.sum_cons]

/-- A sum over a list as one over indexes, of which there may be too many. -/
theorem sum_map_eq_sum_range {β M : Type} [AddCommMonoid M] (f : β → M) {d : β} (hd : f d = 0)
    {l : List β} {n : Nat} (hn : l.length ≤ n) :
    (l.map f).sum = ∑ i ∈ Finset.range n, f (l.getD i d) := by
  induction l generalizing n with
  | nil => exact (Finset.sum_eq_zero fun i _ => hd).symm
  | cons b l ih =>
    cases n with
    | zero => cases hn
    | succ n =>
      rw [Finset.sum_range_succ', List.map_cons, List.sum_cons,
        ih (Nat.le_of_succ_le_succ hn), add_comm]
      rfl

theorem content_eq_sum_range {cells : List (Option α)} {n : Nat} (hn : cells.length ≤ n) :
    content cells = ∑ i ∈ Finset.range n, (↑(cells.getD i none).toList : Multiset α) := by
  rw [content_eq_sum]
  exact sum_map_eq_sum_range (d := none) (fun cell => (↑cell.toList : Multiset α)) rfl hn

theorem content_rightpad (n : Nat) (cells : List (Option α)) :
    content (cells.rightpad n none) = content cells := by
  have hn : cells.length ≤ (cells.rightpad n none).length := by simp
  rw [content_eq_sum_range (Nat.le_refl _), content_eq_sum_range hn]
  simp only [Grid.getD_rightpad_none]

namespace Grid

variable {g h : Grid α} {c r : Nat} {axis : Axis} {i j : Nat}

/-! ## Cells of a grid -/

/-- The values of a grid, each as often as it stands there. -/
def content (g : Grid α) : Multiset α := ↑g.present

theorem content_eq (g : Grid α) : g.content = (g.columns.map ElasticGrid.content).sum :=
  content_flatten g.columns

theorem HasShape.content_eq_sum (hg : g.HasShape c r) {n m : Nat} (hn : c ≤ n) (hm : r ≤ m) :
    g.content =
      ∑ x ∈ Finset.range n, ∑ y ∈ Finset.range m, (↑(g.cell x y).toList : Multiset α) := by
  have hlength : ∀ x, (g.columns.getD x []).length ≤ m := by
    intro x
    by_cases hx : x < c
    · rw [hg.length_column hx]; exact hm
    · rw [List.getD_eq_getElem?_getD, List.getElem?_eq_none (by rw [hg.columns]; omega)]
      exact Nat.zero_le m
  have hcolumns : g.columns.length ≤ n := by rw [hg.columns]; exact hn
  rw [content_eq, sum_map_eq_sum_range ElasticGrid.content content_nil hcolumns]
  exact Finset.sum_congr rfl fun x _ => content_eq_sum_range (hlength x)

theorem HasShape.content_congr {c' r' : Nat} (hg : g.HasShape c r) (hh : h.HasShape c' r')
    (hcell : ∀ x y, g.cell x y = h.cell x y) : g.content = h.content := by
  rw [hg.content_eq_sum (Nat.le_max_left c c') (Nat.le_max_left r r'),
    hh.content_eq_sum (Nat.le_max_right c c') (Nat.le_max_right r r')]
  simp only [hcell]

theorem HasShape.content_flip (hg : g.HasShape c r) : g.flip.content = g.content := by
  rw [hg.flip.content_eq_sum (Nat.le_refl r) (Nat.le_refl c),
    hg.content_eq_sum (Nat.le_refl c) (Nat.le_refl r), Finset.sum_comm]
  simp only [hg.cell_flip]

theorem Rectangular.content_flip (hg : g.Rectangular) : g.flip.content = g.content :=
  hg.hasShape.content_flip

theorem HasShape.content_setCell (hg : g.HasShape c r) {x y : Nat} (hx : x < c) (hy : y < r)
    (value : Option α) :
    (g.setCell x y value).content + ↑(g.cell x y).toList = g.content + ↑value.toList := by
  have hsum : ∀ {h : Grid α}, h.HasShape c r → h.content =
      ∑ p ∈ Finset.range c ×ˢ Finset.range r, (↑(h.cell p.1 p.2).toList : Multiset α) := by
    intro h hh
    rw [hh.content_eq_sum (Nat.le_refl c) (Nat.le_refl r), Finset.sum_product]
  have hmem : (x, y) ∈ Finset.range c ×ˢ Finset.range r := by simp [hx, hy]
  have hrest : ∑ p ∈ (Finset.range c ×ˢ Finset.range r).erase (x, y),
        (↑((g.setCell x y value).cell p.1 p.2).toList : Multiset α) =
      ∑ p ∈ (Finset.range c ×ˢ Finset.range r).erase (x, y), ↑(g.cell p.1 p.2).toList := by
    refine Finset.sum_congr rfl fun p hp => ?_
    rw [hg.cell_setCell hx hy, if_neg]
    exact fun heq => (Finset.mem_erase.1 hp).1 (Prod.ext heq.1 heq.2)
  rw [hsum (hg.setCell x y value), hsum hg, ← Finset.add_sum_erase _ _ hmem, hrest,
    ← Finset.add_sum_erase _ _ hmem, hg.cell_setCell hx hy, if_pos ⟨rfl, rfl⟩]
  ac_rfl

/-- What stretching and packing keep: they change the shape but no cell. -/
theorem Rectangular.content_stretch (hg : g.Rectangular) (hne : 0 < g.columnCount) (axis : Axis)
    (n : Nat) : (g.stretch axis n).content = g.content := by
  refine (hg.stretch hne axis n).hasShape.content_congr hg.hasShape ?_
  cases axis
  · exact cell_widen n g
  · exact cell_heighten n g

theorem Rectangular.content_packIf (hg : g.Rectangular) (axis : Axis) (wanted : Bool) :
    (g.packIf axis wanted).content = g.content :=
  (hg.packIf axis wanted).hasShape.content_congr hg.hasShape (hg.cell_packIf axis wanted)

theorem content_of_perm (hperm : g.columns.Perm h.columns) : g.content = h.content := by
  rw [content_eq, content_eq]
  exact (hperm.map ElasticGrid.content).sum_eq

theorem content_heighten (n : Nat) (g : Grid α) : (g.heighten n).content = g.content := by
  rw [content_eq, content_eq, heighten, List.map_map]
  exact congrArg List.sum (List.map_congr_left fun column _ => content_rightpad n column)

theorem content_insertColumn (g : Grid α) (hi : i ≤ g.columnCount) (values : List (Option α)) :
    (g.insertColumn i values).content = g.content + ElasticGrid.content values := by
  have hperm := List.perm_insertIdx (values.rightpad (max g.rowCount (max values.length 1)) none)
    (g.heighten (max g.rowCount (max values.length 1))).columns
    (by simpa [heighten, columnCount] using hi)
  rw [content_eq, insertColumn, (hperm.map ElasticGrid.content).sum_eq, List.map_cons,
    List.sum_cons, content_rightpad, ← content_eq, content_heighten, add_comm]

theorem content_eraseColumn (g : Grid α) (hi : i < g.columnCount) :
    (g.eraseColumn i).content + ElasticGrid.content (g.column i) = g.content := by
  have hi : i < g.columns.length := hi
  have hperm := List.getElem_cons_eraseIdx_perm hi
  rw [content_eq g, ← (hperm.map ElasticGrid.content).sum_eq, List.map_cons, List.sum_cons,
    content_eq, eraseColumn, column, List.getD_eq_getElem?_getD, List.getElem?_eq_getElem hi,
    Option.getD_some, add_comm]

theorem Rectangular.content_insert (hg : g.Rectangular) (hi : i ≤ g.count axis)
    (values : List (Option α)) :
    (g.insert axis i values).content = g.content + ElasticGrid.content values := by
  cases axis
  · exact g.content_insertColumn hi values
  · rw [← (hg.insert hi values).content_flip, hg.flip_insert hi, ← hg.content_flip]
    exact g.flip.content_insertColumn (by rwa [columnCount_flip]) values

theorem Rectangular.content_erase (hg : g.Rectangular) (hi : i < g.count axis) :
    (g.erase axis i).content + ElasticGrid.content (g.line axis i) = g.content := by
  cases axis
  · exact g.content_eraseColumn hi
  · rw [← (hg.erase hi).content_flip, hg.flip_erase hi, ← hg.line_flip hi, ← hg.content_flip]
    exact g.flip.content_eraseColumn (by rwa [columnCount_flip])

theorem Rectangular.content_replace (hg : g.Rectangular) (hi : i < g.count axis)
    (values : List (Option α)) :
    (g.replace axis i values).content + ElasticGrid.content (g.line axis i) =
      g.content + ElasticGrid.content values := by
  have hslot := hg.le_count_erase hi
  have herase := hg.erase hi
  rw [Grid.replace, (herase.insert hslot values).content_stretch
    (herase.columnCount_insert_pos hslot values), herase.content_insert hslot,
    ← hg.content_erase hi]
  ac_rfl

theorem Rectangular.content_swap (hg : g.Rectangular) (hi : i < g.count axis)
    (hj : j < g.count axis) : (g.swap axis i j).content = g.content := by
  cases axis
  · exact content_of_perm (swapAt_perm i j g.columns)
  · rw [← (hg.swap .row i j).content_flip, hg.flip_swap hi hj, ← hg.content_flip]
    exact content_of_perm (swapAt_perm i j g.flip.columns)

theorem Rectangular.content_reverse (hg : g.Rectangular) (axis : Axis) :
    (g.reverse axis).content = g.content := by
  cases axis
  · exact content_of_perm (List.reverse_perm g.columns)
  · rw [← (hg.reverse .row).content_flip, hg.flip_reverse, ← hg.content_flip]
    exact content_of_perm (List.reverse_perm g.flip.columns)

/-- The second cell is set back to what the first one made room for. -/
theorem HasShape.content_swapCells (hg : g.HasShape c r) {p q : Position} (hpx : p.x < c)
    (hpy : p.y < r) (hqx : q.x < c) (hqy : q.y < r) : (g.swapCells p q).content = g.content := by
  have hfirst := hg.content_setCell hpx hpy (g.cell q.x q.y)
  have hsecond := (hg.setCell p.x p.y (g.cell q.x q.y)).content_setCell hqx hqy (g.cell p.x p.y)
  have hq : (g.setCell p.x p.y (g.cell q.x q.y)).cell q.x q.y = g.cell q.x q.y := by
    rw [hg.cell_setCell hpx hpy]
    split <;> rfl
  rw [hq, hfirst] at hsecond
  exact add_right_cancel hsecond

end Grid

end ElasticGrid
