import ElasticGrid.Proofs.Conservation
import ElasticGrid.Proofs.Insertion

/-!
# Lines that are replaced

A line is replaced in three steps: it is taken out, another one is put in at its place, and what
the grid lost of its extent in between is filled up again. Nothing of this is to be seen in the
end. The new line stands where the old one stood, all other cells are as they were, and the grid
has grown if the new line is longer than the old one (`Replaces`). So it is all the same whether a
line is replaced or the grid is first made wide enough and then the cells of the line are set, one
after the other (`Rectangular.after_cellByCell_eq`).
-/

namespace ElasticGrid

variable {α : Type} {g : Grid α} {axis : Axis} {i : Nat} {index : Number}

namespace Grid

/-- `h` is `g` with the values in the place of line `i` of an axis. -/
structure Replaces (h g : Grid α) (axis : Axis) (i : Nat) (values : List (Option α)) : Prop where
  count : h.count axis = g.count axis
  length : h.count axis.cross = max (g.count axis.cross) values.length
  line : ∀ j, h.get (axis.position i j) = if hj : j < values.length then values[j] else none
  others : ∀ k, k ≠ i → ∀ j, h.get (axis.position k j) =
    if j < g.count axis.cross then g.get (axis.position k j) else none

theorem Rectangular.get_replace (hg : g.Rectangular) (hi : i < g.count axis)
    (values : List (Option α)) (k j : Nat) :
    (g.replace axis i values).get (axis.position k j) =
      if k = i then values.getD j none else g.get (axis.position k j) := by
  have hlen : i < (g.lines axis).length := by rwa [length_lines]
  have hcell : ∀ {h : Grid α}, h.Rectangular →
      h.get (axis.position k j) = ((h.lines axis).getD k []).getD j none := fun hh =>
    (hh.lines_cell axis k j).symm
  rw [hcell (hg.replace hi values), hcell hg, hg.lines_replace hi, getD_getD_filled,
    getD_set hlen]
  split <;> rfl

theorem Rectangular.count_replace (hg : g.Rectangular) (hi : i < g.count axis)
    (values : List (Option α)) : (g.replace axis i values).count axis = g.count axis := by
  rw [← length_lines, hg.lines_replace hi, filled, List.length_map, List.length_set, length_lines]

theorem Rectangular.count_cross_replace (hg : g.Rectangular) (hi : i < g.count axis)
    (values : List (Option α)) :
    (g.replace axis i values).count axis.cross = max (g.count axis.cross) values.length := by
  have hlen : i < (g.lines axis).length := by rwa [length_lines]
  have hfill : values.rightpad (max (g.count axis.cross) values.length) none ∈
      (g.replace axis i values).lines axis := by
    rw [hg.lines_replace hi]
    exact List.mem_map_of_mem (List.mem_set hlen values)
  rw [← (hg.replace hi values).length_of_mem_lines hfill, List.length_rightpad]
  omega

theorem Rectangular.replaces (hg : g.Rectangular) (hi : i < g.count axis)
    (values : List (Option α)) : (g.replace axis i values).Replaces g axis i values where
  count := hg.count_replace hi values
  length := hg.count_cross_replace hi values
  line j := by
    rw [hg.get_replace hi, if_pos rfl]
    exact getD_eq_dite values j
  others k hk j := by rw [hg.get_replace hi, if_neg hk]; exact hg.get_eq_ite axis k j

/-- A line in the place of itself changes nothing. -/
theorem Rectangular.replace_line (hg : g.Rectangular) (hi : i < g.count axis) :
    g.replace axis i (g.line axis i) = g := by
  have hcross := hg.count_cross_replace hi (g.line axis i)
  rw [hg.length_line hi, Nat.max_self] at hcross
  refine (hg.replace hi _).eq_of_get hg axis (hg.count_replace hi _) hcross fun k j => ?_
  rw [hg.get_replace hi]
  split
  · next hk => rw [hk, ← lines_getD g hi]; exact hg.lines_cell axis i j
  · rfl

end Grid

/-! ## The same, cell by cell -/

def CellAddress.Names (p : Position) : CellAddress → Prop
  | indexes x y | position x y => x.IsIndex p.x ∧ y.IsIndex p.y

namespace Grid

theorem findCell_of_names {address : CellAddress} {p : Position} (hp : address.Names p)
    (hx : p.x < g.columnCount) (hy : p.y < g.rowCount) : g.findCell address = .ok p := by
  have hcell : ∀ {x y : Number}, x.IsIndex p.x → y.IsIndex p.y → g.cellAt x y = .ok p := by
    intro x y hpx hpy
    have hcolumn : g.lineAt .column x = .ok p.x := lineAt_of_isIndex hpx hx
    have hrow : g.lineAt .row y = .ok p.y := lineAt_of_isIndex hpy hy
    simp only [cellAt, hcolumn, hrow, bind, Except.bind]
    rfl
  cases address with
  | indexes x y => exact hcell hp.1 hp.2
  | position x y =>
    rw [findCell, CellAddress.numbers_position hp.1 hp.2]
    exact hcell (Number.isIndex_ofNat hp.1.2) (Number.isIndex_ofNat hp.2.2)

theorem Rectangular.get_setCell (hg : g.Rectangular) {j : Nat} (hi : i < g.count axis)
    (hj : j < g.count axis.cross) (value : Option α) (k l : Nat) :
    (g.setCell (axis.position i j).x (axis.position i j).y value).get (axis.position k l) =
      if k = i ∧ l = j then value else g.get (axis.position k l) := by
  cases axis
  · exact hg.hasShape.cell_setCell hi hj value k l
  · refine (hg.hasShape.cell_setCell hj hi value l k).trans ?_
    simp only [and_comm]
    rfl

theorem run_setCell_names {address : CellAddress} {j : Nat} (hi : i < g.count axis)
    (hj : j < g.count axis.cross) (haddress : address.Names (axis.position i j))
    (value : Option α) :
    (Edit.setCell address value).run g =
      (.ok (.cell (g.get (axis.position i j))),
        ⟨g.setCell (axis.position i j).x (axis.position i j).y value, []⟩) := by
  have hfound : g.findCell address = .ok (axis.position i j) := by
    cases axis
    · exact findCell_of_names haddress hi hj
    · exact findCell_of_names haddress hj hi
  rw [Edit.run_setCell, hfound]
  rfl

def cellByCell (address : Nat → CellAddress) (values : List (Option α)) (n : Nat) : List (Edit α) :=
  (List.range n).map fun j => .setCell (address j) (values.getD j none)

/-- When the first cells of a line were set, these cells are new and nothing else is. -/
theorem Rectangular.after_cellByCell (hg : g.Rectangular) (hi : i < g.count axis)
    {address : Nat → CellAddress} {n : Nat} (hn : n ≤ g.count axis.cross)
    (haddress : ∀ j < n, (address j).Names (axis.position i j)) (values : List (Option α)) :
    let h := g.after (cellByCell address values n)
    h.Rectangular ∧ h.count axis = g.count axis ∧ h.count axis.cross = g.count axis.cross ∧
      ∀ k j, h.get (axis.position k j) =
        if k = i ∧ j < n then values.getD j none else g.get (axis.position k j) := by
  induction n with
  | zero => exact ⟨hg, rfl, rfl, fun k j => (if_neg fun hj => Nat.not_lt_zero j hj.2).symm⟩
  | succ n ih =>
    obtain ⟨hr, hcount, hcross, hget⟩ :=
      ih (Nat.le_of_succ_le hn) fun j hj => haddress j (Nat.lt_succ_of_lt hj)
    have hi' : i < (g.after (cellByCell address values n)).count axis := by rwa [hcount]
    have hn' : n < (g.after (cellByCell address values n)).count axis.cross := by rwa [hcross]
    have hset : g.after (cellByCell address values (n + 1)) =
        (g.after (cellByCell address values n)).setCell (axis.position i n).x
          (axis.position i n).y (values.getD n none) := by
      have hrun := run_setCell_names hi' hn' (haddress n (Nat.lt_succ_self n)) (values.getD n none)
      rw [cellByCell, List.range_succ, List.map_append, Grid.after, List.foldl_append]
      exact congrArg (·.2.grid) hrun
    dsimp only
    rw [hset]
    refine ⟨hr.setCell _ _ _, ?_, ?_, fun k j => ?_⟩
    · rw [hr.count_setCell, hcount]
    · rw [hr.count_setCell, hcross]
    · rw [hr.get_setCell hi' hn', hget]
      by_cases hj : k = i ∧ j = n
      · obtain ⟨rfl, rfl⟩ := hj
        rw [if_pos ⟨rfl, rfl⟩, if_pos ⟨rfl, Nat.lt_succ_self _⟩]
      · rw [if_neg hj]
        congr 1
        rw [eq_iff_iff]
        omega

/-- To replace a line is to make room for the new one and to set the cells one by one. -/
theorem Rectangular.after_cellByCell_eq (hg : g.Rectangular) (hi : i < g.count axis)
    {address : Nat → CellAddress} {values : List (Option α)} {n : Nat}
    (hn : n = max (g.count axis.cross) values.length)
    (haddress : ∀ j < n, (address j).Names (axis.position i j)) :
    (g.stretch axis.cross n).after (cellByCell address values n) = g.replace axis i values := by
  have hne : 0 < g.columnCount := hg.count_pos hi .column
  have hcount := hg.count_stretch_cross hne axis n
  have hcross : (g.stretch axis.cross n).count axis.cross = n := by
    rw [hg.count_stretch hne, hn]; omega
  have hlt : i < (g.stretch axis.cross n).count axis := by rwa [hcount]
  obtain ⟨hr, hcount', hcross', hget⟩ := (hg.stretch hne axis.cross n).after_cellByCell hlt
    (Nat.le_of_eq hcross.symm) haddress values
  refine hr.eq_of_get (hg.replace hi values) axis ?_ ?_ fun k j => ?_
  · rw [hcount', hcount, hg.count_replace hi]
  · rw [hcross', hcross, hg.count_cross_replace hi, hn]
  · rw [hget, get_stretch, hg.get_replace hi]
    by_cases hj : j < n
    · simp only [hj, and_true]
    · -- Beyond the last cell that was set there is nothing to be seen.
      have hvalue : values.getD j none = none := List.getD_eq_default _ _ (by omega)
      have hcell : g.get (axis.position k j) = none := hg.get_of_count_cross_le (by omega) k
      rw [if_neg fun h => hj h.2, hcell, hvalue, ite_self]

end Grid

theorem Edit.run_replace_nth (hg : g.Rectangular) (hindex : index.IsIndex i)
    (hi : i < g.count axis) (values : List (Option α)) :
    (replace axis index values).run g =
      (.ok (.line (g.line axis i)), ⟨g.replace axis i values, g.replacement axis i values⟩) := by
  rw [run_replace hg, Grid.lineAt_of_isIndex hindex hi]
  rfl

/-- **A line that is replaced makes way for the new one, and all else stays.** The old line is
given back, the new one is filled up or the other lines are filled up to its length, and what a
line looks like may as well be put in its place. To replace a line is to widen the grid and to set
its cells one by one. -/
theorem Grid.Reachable.replacement_keeps_the_rest [Content α] (hg : g.Reachable)
    (hindex : index.IsIndex i) (hi : i < g.count axis) :
    (∀ values, let replaced := (Edit.replace axis index values).run g
      replaced.1 = .ok (.line (g.line axis i)) ∧ replaced.2.grid.Replaces g axis i values ∧
        ∀ address : Nat → CellAddress,
          let n := max (g.count axis.cross) values.length
          (∀ j < n, (address j).Names (axis.position i j)) →
            replaced.2.grid = (g.stretch axis.cross n).after (cellByCell address values n)) ∧
    ∃ cells, (Query.line axis (.nth index)).answer g = .ok (.line cells) ∧
      ((Edit.replace axis index cells).run g).2.grid = g := by
  have hr := hg.rectangular
  refine ⟨fun values => ?_, g.line axis i, ?_, ?_⟩
  · rw [Edit.run_replace_nth hr hindex hi]
    exact ⟨rfl, hr.replaces hi values,
      fun _ haddress => (hr.after_cellByCell_eq hi rfl haddress).symm⟩
  · have hline : g.findLine axis (.nth index) = .ok i := Grid.lineAt_of_isIndex hindex hi
    rw [Query.answer, hline]
    rfl
  · rw [Edit.run_replace_nth hr hindex hi, hr.replace_line hi]

/-- The only row of a grid with two columns is replaced by one of three cells, and by one of none
without a change of the size. -/
theorem Grid.only_row_replaced :
    let g := (Source.ofLines .row [[some (Value.whole 1), some (.whole 2)]]).run.2.grid
    let values := [none, none, some (Value.whole 3)]
    let replaced := (Edit.replace .row .negativeZero values).run g
    let address := fun j => CellAddress.indexes (.ofNat j) .negativeZero
    g.Reachable ∧ Number.negativeZero.IsIndex 0 ∧ 0 < g.count .row ∧
      (∀ j < 3, (address j).Names (Axis.row.position 0 j)) ∧
      replaced.1 = .ok (.line [some (.whole 1), some (.whole 2)]) ∧
      replaced.2.grid.Replaces g .row 0 values ∧
      replaced.2.grid = (g.stretch .column 3).after (cellByCell address values 3) ∧
      ((Edit.replace .row .negativeZero []).run g).2.grid.Replaces g .row 0 [] ∧
      ((Edit.replace .row .negativeZero []).run g).2.grid = ⟨[[none], [none]]⟩ := by
  intro g values replaced address
  have hg : g.Reachable := .built rfl
  have hzero : Number.negativeZero.IsIndex 0 := Number.toIndex?_eq_some_iff.1 (by decide)
  have hrow : 0 < g.count .row := by decide
  have haddress : ∀ j < 3, (address j).Names (Axis.row.position 0 j) := fun j hj =>
    ⟨Number.isIndex_ofNat (show j < 2 ^ 53 by omega), hzero⟩
  obtain ⟨hreplace, -⟩ := hg.replacement_keeps_the_rest hzero hrow
  obtain ⟨hold, hnew, hsame⟩ := hreplace values
  exact ⟨hg, hzero, hrow, haddress, hold, hnew, hsame address haddress, (hreplace []).2.1,
    by decide +kernel⟩

end ElasticGrid
