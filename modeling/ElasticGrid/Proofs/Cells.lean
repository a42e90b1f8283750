import ElasticGrid.Proofs.Shape

/-!
# The cells of a grid

Every operation on grids moves cells about, and one lemma here says for each of them
where the cell of column `x` and row `y` comes from. Outside of a grid all cells are
absent, so most of the lemmas hold for all indexes. Together with the lemmas on shapes
they decide equations between grids, by `HasShape.ext`.
-/

namespace ElasticGrid

section
variable {β : Type} {i j : Nat} {l : List β}

theorem getD_insertIdx (hi : i ≤ l.length) (a d : β) (j : Nat) :
    (l.insertIdx i a).getD j d =
      if j < i then l.getD j d else if j = i then a else l.getD (j - 1) d := by
  simp only [List.getD_eq_getElem?_getD, List.getElem?_insertIdx]
  by_cases h1 : j < i
  · simp [h1]
  · by_cases h2 : j = i
    · subst h2; simp [hi]
    · simp [h1, h2]

theorem getD_eraseIdx (l : List β) (i j : Nat) (d : β) :
    (l.eraseIdx i).getD j d = if j < i then l.getD j d else l.getD (j + 1) d := by
  simp only [List.getD_eq_getElem?_getD, List.getElem?_eraseIdx]
  split <;> rfl

theorem getD_set (hi : i < l.length) (a d : β) (j : Nat) :
    (l.set i a).getD j d = if j = i then a else l.getD j d := by
  simp only [List.getD_eq_getElem?_getD]
  by_cases hj : j = i
  · rw [if_pos hj, hj, List.getElem?_set_self hi, Option.getD_some]
  · rw [if_neg hj, List.getElem?_set_ne (Ne.symm hj)]

theorem getD_reverse (hj : j < l.length) (d : β) :
    l.reverse.getD j d = l.getD (l.length - 1 - j) d := by
  rw [List.getD_eq_getElem?_getD, List.getD_eq_getElem?_getD, List.getElem?_reverse hj]

def swapIndex (i j k : Nat) : Nat := if k = i then j else if k = j then i else k

theorem getD_swapAt (hi : i < l.length) (hj : j < l.length) (k : Nat) (d : β) :
    (swapAt i j l).getD k d = l.getD (swapIndex i j k) d := by
  simp only [swapAt, List.getElem?_eq_getElem hi, List.getElem?_eq_getElem hj,
    List.getD_eq_getElem?_getD, List.getElem?_set, List.length_set, swapIndex]
  by_cases h2 : k = j
  · subst h2
    by_cases h1 : k = i <;> simp [h1, hi, hj]
  · by_cases h1 : k = i
    · subst h1; simp [Ne.symm h2, hi, hj]
    · simp [h1, h2, Ne.symm h1, Ne.symm h2]

theorem getD_zipWith {γ δ : Type} {f : β → γ → δ} {m : List γ} {k : Nat} (hl : k < l.length)
    (hm : k < m.length) (b : β) (e : γ) (d : δ) :
    (List.zipWith f l m).getD k d = f (l.getD k b) (m.getD k e) := by
  simp only [List.getD_eq_getElem?_getD, List.getElem?_zipWith, List.getElem?_eq_getElem hl,
    List.getElem?_eq_getElem hm, Option.getD_some]

theorem zipIdx_eq_map_range (l : List β) (d : β) :
    l.zipIdx = (List.range l.length).map fun i => (l.getD i d, i) := by
  apply List.ext_getElem
  · simp
  · intro i hi _
    have hi : i < l.length := by simpa using hi
    simp [List.getD_eq_getElem?_getD, hi]

end

namespace Grid

variable {α : Type} {g h : Grid α} {c r : Nat}

theorem getD_map_nil {β γ : Type} (f : List β → List γ) (hf : f [] = []) (lists : List (List β))
    (x : Nat) : (lists.map f).getD x [] = f (lists.getD x []) := by
  simp only [List.getD_eq_getElem?_getD, List.getElem?_map]
  cases lists[x]? <;> simp [hf]

theorem HasShape.length_column (hg : g.HasShape c r) {x : Nat} (hx : x < c) :
    (g.columns.getD x []).length = r := by
  have hx' : x < g.columns.length := by rw [hg.columns]; exact hx
  rw [List.getD_eq_getElem?_getD, List.getElem?_eq_getElem hx', Option.getD_some]
  exact hg.rows _ (List.getElem_mem hx')

theorem cell_of_columnCount_le (g : Grid α) {x : Nat} (hx : g.columnCount ≤ x) (y : Nat) :
    g.cell x y = none := by
  have hnone : g.columns[x]? = none := List.getElem?_eq_none hx
  simp [cell, List.getD_eq_getElem?_getD, hnone]

theorem HasShape.cell_eq_none (hg : g.HasShape c r) {x y : Nat} (h : c ≤ x ∨ r ≤ y) :
    g.cell x y = none := by
  by_cases hx : x < c
  · have hy : (g.columns.getD x [])[y]? = none :=
      List.getElem?_eq_none (by rw [hg.length_column hx]; omega)
    rw [cell, List.getD_eq_getElem?_getD, hy, Option.getD_none]
  · exact cell_of_columnCount_le g (by rw [hg.columnCount]; omega) y

theorem HasShape.ext (hg : g.HasShape c r) (hh : h.HasShape c r)
    (hcell : ∀ x < c, ∀ y < r, g.cell x y = h.cell x y) : g = h := by
  have hcolumns : g.columns = h.columns := by
    apply List.ext_getElem (by rw [hg.columns, hh.columns])
    intro x hx hx'
    have hr := hg.rows _ (List.getElem_mem hx)
    have hr' := hh.rows _ (List.getElem_mem hx')
    apply List.ext_getElem (by rw [hr, hr'])
    intro y hy hy'
    have := hcell x (by rw [← hg.columns]; exact hx) y (by rw [← hr]; exact hy)
    simpa [cell, List.getD_eq_getElem?_getD, hx, hx', hy, hy'] using this
  obtain ⟨columns⟩ := g; obtain ⟨columns'⟩ := h
  exact congrArg Grid.mk hcolumns

/-! ## What becomes of the cells -/

theorem HasShape.cell_insertRow (hg : g.HasShape c r) {y : Nat} (hy : y ≤ r)
    (values : List (Option α)) (x' y' : Nat) :
    (g.insertRow y values).cell x' y' =
      if y' < y then g.cell x' y' else if y' = y then values.getD x' none
      else g.cell x' (y' - 1) := by
  by_cases hx : x' < max c (max values.length 1)
  · have hwide : x' < (g.widen (max c (max values.length 1))).columns.length := by
      show x' < (g.widen _).columnCount
      rw [columnCount_widen]; omega
    have hlong : x' < (values.rightpad (max c (max values.length 1)) none).length := by
      rw [List.length_rightpad]; omega
    have hold : ((g.widen (max c (max values.length 1))).columns.getD x' []).length = r := by
      rw [List.getD_eq_getElem?_getD, List.getElem?_eq_getElem hwide, Option.getD_some]
      exact length_of_mem_widen hg (List.getElem_mem hwide)
    have hcell := cell_widen (max c (max values.length 1)) g x'
    simp only [cell] at hcell
    simp only [cell, Grid.insertRow, hg.columnCount]
    rw [getD_zipWith hwide hlong [] none, getD_insertIdx (by omega), getD_rightpad_none, hcell,
      hcell]
  · have hout : ∀ y, g.cell x' y = none := fun y => hg.cell_eq_none (by omega)
    have hvalue : values.getD x' none = none := by
      rw [List.getD_eq_getElem?_getD, List.getElem?_eq_none (by omega), Option.getD_none]
    rw [(hg.insertRow hy values).cell_eq_none (by omega), hout, hout, hvalue]
    simp

theorem cell_insertColumn (g : Grid α) {x : Nat} (hx : x ≤ g.columnCount)
    (values : List (Option α)) (x' y' : Nat) :
    (g.insertColumn x values).cell x' y' =
      if x' < x then g.cell x' y' else if x' = x then values.getD y' none
      else g.cell (x' - 1) y' := by
  have hlen : x ≤ (g.heighten (max g.rowCount (max values.length 1))).columns.length := by
    simpa [heighten, columnCount] using hx
  rw [cell, insertColumn, getD_insertIdx hlen]
  split
  · exact cell_heighten _ g x' y'
  · split
    · exact getD_rightpad_none _ values y'
    · exact cell_heighten _ g (x' - 1) y'

theorem HasShape.cell_eraseRow (hg : g.HasShape c r) {y : Nat} (hy : y < r) (x' y' : Nat) :
    (g.eraseRow y).cell x' y' = if y' < y then g.cell x' y' else g.cell x' (y' + 1) := by
  have hshape := hg.eraseRow hy
  by_cases h1 : r = 1
  · rw [hshape.cell_eq_none (.inl (by rw [if_pos h1]; exact Nat.zero_le _)), if_neg (by omega),
      hg.cell_eq_none (by omega)]
  · have hkept : (g.eraseRow y).columns = g.columns.map fun column => column.eraseIdx y := by
      rw [Grid.eraseRow]
      split
      · next hr =>
        rw [Grid.eraseRow, if_pos hr] at hshape
        have := hshape.rowCount
        rw [rowCount_empty] at this; omega
      · rfl
    rw [cell, hkept, getD_map_nil _ rfl, getD_eraseIdx]
    rfl

theorem cell_eraseColumn (g : Grid α) (x x' y' : Nat) :
    (g.eraseColumn x).cell x' y' = if x' < x then g.cell x' y' else g.cell (x' + 1) y' := by
  rw [cell, eraseColumn, getD_eraseIdx]
  split <;> rfl

theorem HasShape.cell_flip (hg : g.HasShape c r) (x y : Nat) : g.flip.cell x y = g.cell y x := by
  by_cases hx : x < r
  · exact Grid.cell_flip g y (by rw [hg.rowCount]; exact hx)
  · rw [hg.flip.cell_eq_none (by omega), hg.cell_eq_none (by omega)]

theorem HasShape.cell_reverseX (hg : g.HasShape c r) {x : Nat} (hx : x < c) (y : Nat) :
    g.reverseX.cell x y = g.cell (c - 1 - x) y := by
  rw [cell, Grid.reverseX, getD_reverse (by rw [hg.columns]; exact hx), hg.columns]
  rfl

theorem HasShape.cell_reverseY (hg : g.HasShape c r) (x : Nat) {y : Nat} (hy : y < r) :
    g.reverseY.cell x y = g.cell x (r - 1 - y) := by
  by_cases hx : x < c
  · have hl := hg.length_column hx
    rw [cell, Grid.reverseY, getD_map_nil _ rfl, getD_reverse (by omega), hl]
    rfl
  · rw [hg.reverseY.cell_eq_none (by omega), hg.cell_eq_none (by omega)]

theorem HasShape.cell_swapColumns (hg : g.HasShape c r) {x1 x2 : Nat} (h1 : x1 < c) (h2 : x2 < c)
    (x y : Nat) : (g.swapColumns x1 x2).cell x y = g.cell (swapIndex x1 x2 x) y := by
  rw [cell, Grid.swapColumns, getD_swapAt (by rw [hg.columns]; exact h1)
    (by rw [hg.columns]; exact h2)]
  rfl

theorem HasShape.cell_swapRows (hg : g.HasShape c r) {y1 y2 : Nat} (h1 : y1 < r) (h2 : y2 < r)
    (x y : Nat) : (g.swapRows y1 y2).cell x y = g.cell x (swapIndex y1 y2 y) := by
  by_cases hx : x < c
  · have hl := hg.length_column hx
    rw [cell, Grid.swapRows, getD_map_nil _ rfl, getD_swapAt (by omega) (by omega)]
    rfl
  · rw [(hg.swapRows y1 y2).cell_eq_none (by omega), hg.cell_eq_none (by omega)]

theorem HasShape.cell_setCell (hg : g.HasShape c r) {x y : Nat} (hx : x < c) (hy : y < r)
    (value : Option α) (x' y' : Nat) :
    (g.setCell x y value).cell x' y' = if x' = x ∧ y' = y then value else g.cell x' y' :=
  Grid.cell_setCell g value (by rw [hg.columnCount]; exact hx)
    (by rw [column, hg.length_column hx]; exact hy) x' y'

/-! ## All cells -/

theorem mem_region {g : Grid α} {p : Position} :
    p ∈ g.region.toList ↔ p.x < g.columnCount ∧ p.y < g.rowCount := by
  rw [← decide_eq_true_iff (p := p ∈ _), ← Region.contains_eq_decide_mem]
  simp [Region.contains, Region.xSpan, Region.ySpan, Span.includes_ofNat, Span.mem_toList, region,
    size]

theorem HasShape.entries_eq (hg : g.HasShape c r) :
    g.entries = g.region.toList.map fun p => (p, g.cell p.x p.y) := by
  have hregion : g.region.toList =
      (List.range c).flatMap fun x => (List.range r).map fun y => ⟨x, y⟩ := by
    simp only [Region.toList, Region.xSpan, Region.ySpan, Span.toList, Span.size, region,
      hg.size_eq, Nat.sub_zero, ← List.range_eq_range']
  have hcolumns : g.columns.zipIdx = (List.range c).map fun x => (g.columns.getD x [], x) := by
    rw [zipIdx_eq_map_range g.columns [], hg.columns]
  rw [entries, hcolumns, hregion, List.flatMap_map, List.map_flatMap, List.flatMap_def,
    List.flatMap_def]
  refine congrArg List.flatten (List.map_congr_left fun x hx => ?_)
  simp only []
  rw [zipIdx_eq_map_range _ none, hg.length_column (List.mem_range.1 hx), List.map_map,
    List.map_map]
  rfl

theorem values_eq_map_entries (g : Grid α) : g.values = g.entries.map (·.2) := by
  rw [entries, List.map_flatMap, List.flatMap_def]
  calc g.columns.flatten
      = (g.columns.zipIdx.map (·.1)).flatten := by rw [List.zipIdx_map_fst]
    _ = _ := congrArg List.flatten (List.map_congr_left fun entry _ => ?_)
  obtain ⟨column, x⟩ := entry
  simp only [List.map_map]
  exact (List.zipIdx_map_fst 0 column).symm

end Grid

end ElasticGrid
