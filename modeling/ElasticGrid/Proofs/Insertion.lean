import ElasticGrid.Proofs.Acceptance
import ElasticGrid.Proofs.Lines

/-!
# Lines that go in and come out

A line that goes into a grid moves on the lines behind it and leaves all other lines as they are;
if it is longer than they are, these are filled up. `Inserts` says so cell by cell. The empty grid
is no exception: its one line is as long as the line that went in, or has a single cell.

To take the line out again undoes all of this but the filling up (`Rectangular.erase_insert`). The
other way round nothing remains to be seen (`Rectangular.insert_erase`), not even if the grid was
empty in between: the line that was taken out knows how long the lines of the grid were.
-/

namespace ElasticGrid

variable {α : Type} {g : Grid α} {axis : Axis} {i : Nat} {index : Number}

namespace Grid

/-- `h` is `g` with the values put in as line `i` of an axis. -/
structure Inserts (h g : Grid α) (axis : Axis) (i : Nat) (values : List (Option α)) : Prop where
  count : h.count axis = g.count axis + 1
  length : h.count axis.cross = max (g.count axis.cross) (max values.length 1)
  line : ∀ j, h.get (axis.position i j) = if hj : j < values.length then values[j] else none
  before : ∀ k < i, ∀ j, h.get (axis.position k j) =
    if j < g.count axis.cross then g.get (axis.position k j) else none
  behind : ∀ k > i, ∀ j, h.get (axis.position k j) =
    if j < g.count axis.cross then g.get (axis.position (k - 1) j) else none

theorem Rectangular.get_insert (hg : g.Rectangular) (hi : i ≤ g.count axis)
    (values : List (Option α)) (k j : Nat) :
    (g.insert axis i values).get (axis.position k j) =
      if k < i then g.get (axis.position k j) else if k = i then values.getD j none
      else g.get (axis.position (k - 1) j) := by
  cases axis
  · exact cell_insertColumn g hi values k j
  · exact hg.hasShape.cell_insertRow hi values j k

theorem getD_eq_dite (cells : List (Option α)) (j : Nat) :
    cells.getD j none = if hj : j < cells.length then cells[j] else none := by
  split
  · next hj => exact List.getD_eq_getElem cells none hj
  · next hj => exact List.getD_eq_default cells none (Nat.le_of_not_lt hj)

theorem Rectangular.get_of_count_cross_le (hg : g.Rectangular) {j : Nat}
    (hj : g.count axis.cross ≤ j) (k : Nat) : g.get (axis.position k j) = none := by
  cases axis
  · exact hg.hasShape.cell_eq_none (.inr hj)
  · exact hg.hasShape.cell_eq_none (.inl hj)

/-- Beyond the end of a line there are only absent cells. -/
theorem Rectangular.get_eq_ite (hg : g.Rectangular) (axis : Axis) (k j : Nat) :
    g.get (axis.position k j) =
      if j < g.count axis.cross then g.get (axis.position k j) else none := by
  split
  · rfl
  · next hj => exact hg.get_of_count_cross_le (Nat.le_of_not_lt hj) k

theorem Rectangular.inserts (hg : g.Rectangular) (hi : i ≤ g.count axis)
    (values : List (Option α)) : (g.insert axis i values).Inserts g axis i values where
  count := hg.count_insert hi values
  length := hg.count_cross_insert hi values
  line j := by
    rw [hg.get_insert hi, if_neg (Nat.lt_irrefl i), if_pos rfl]
    exact getD_eq_dite values j
  before k hk j := by rw [hg.get_insert hi, if_pos hk]; exact hg.get_eq_ite axis k j
  behind k hk j := by
    rw [hg.get_insert hi, if_neg (by omega), if_neg (by omega)]
    exact hg.get_eq_ite axis (k - 1) j

/-- A blank cell that is there for a while helps to fill the empty grid and leaves no trace. -/
theorem erase_insert_blank (axis : Axis) (values : List (Option α)) :
    ((blank 1 1).insert axis 0 values).erase axis 1 = (empty : Grid α).insert axis 0 values := by
  have hblank : (blank 1 1 : Grid α).Rectangular := (hasShape_blank (by decide)).rectangular
  have hinsert : ((blank 1 1).insert axis 0 values).Rectangular :=
    hblank.insert (Nat.zero_le _) values
  have hcount : 1 < ((blank 1 1).insert axis 0 values).count axis := by
    rw [hblank.count_insert (Nat.zero_le _)]
    cases axis <;> exact Nat.lt_succ_self 1
  have hlines : (((blank 1 1).insert axis 0 values).erase axis 1).lines axis =
      ((empty : Grid α).insert axis 0 values).lines axis := by
    rw [hinsert.lines_erase hcount, hblank.lines_insert (Nat.zero_le _),
      rectangular_empty.lines_insert (Nat.zero_le _)]
    have hwidth : max 1 (max values.length 1) = max 0 (max values.length 1) := by omega
    cases axis
    · show [values.rightpad (max 1 (max values.length 1)) none] = _
      rw [hwidth]; rfl
    · show [values.rightpad (max 1 (max values.length 1)) none] = _
      rw [hwidth]; rfl
  exact (hinsert.erase hcount).eq_of_lines (rectangular_empty.insert (Nat.zero_le _) values) hlines

theorem lineAt_of_isIndex (hindex : index.IsIndex i) (hi : i < g.count axis) :
    g.lineAt axis index = .ok i :=
  lineAt_eq_ok_iff.2 ⟨Number.toIndex?_eq_some_iff.2 hindex, hi⟩

end Grid

namespace Edit

theorem run_insert_before (hg : g.Rectangular) (hindex : index.IsIndex i)
    (hi : i ≤ g.count axis) (values : List (Option α)) :
    (insert axis (.before index) values).run g =
      (.ok .nothing, ⟨g.insert axis i values, g.insertion axis values.length⟩) := by
  have hslot : g.findSlot axis (.before index) = .ok i :=
    Grid.slotAt_eq_ok_iff.2 ⟨Number.toIndex?_eq_some_iff.2 hindex, hi⟩
  rw [run_insert hg, hslot]
  rfl

theorem run_remove_nth (hindex : index.IsIndex i) (hi : i < g.count axis) :
    (remove axis (.nth index)).run g =
      (.ok (.line (g.line axis i)), ⟨g.erase axis i, (g.erase axis i).collapse axis⟩) := by
  have hline : g.findLine axis (.nth index) = .ok i := Grid.lineAt_of_isIndex hindex hi
  rw [run_remove, hline]
  rfl

theorem run_insert_after (hg : g.Rectangular) (hindex : index.IsIndex i)
    (values : List (Option α)) :
    (insert axis (.after index) values).run g =
      (insert axis (.before (.ofNat (i + 1))) values).run g := by
  have hslot : g.findSlot axis (.after index) = g.findSlot axis (.before (.ofNat (i + 1))) := by
    simp only [Grid.findSlot, hindex.requireIndex, bind, Except.bind]
  rw [run_insert hg, run_insert hg, hslot]

theorem run_insert_atEnd (hg : g.Rectangular) (hindex : index.IsIndex (g.count axis))
    (values : List (Option α)) :
    (insert axis .atEnd values).run g = (insert axis (.before index) values).run g := by
  rw [run_insert_before hg hindex (Nat.le_refl _), run_insert hg]
  rfl

end Edit

namespace Grid

/-! ## A line that comes out again -/

theorem Rectangular.line_insert (hg : g.Rectangular) (hi : i ≤ g.count axis)
    (values : List (Option α)) :
    (g.insert axis i values).line axis i =
      values.rightpad (max (g.count axis.cross) (max values.length 1)) none := by
  have hlt := hg.lt_count_insert hi values
  have hlen : i ≤ (g.lines axis).length := by rwa [length_lines]
  rw [← lines_getD _ hlt, hg.lines_insert hi,
    getD_filled (by rw [List.length_insertIdx_of_le_length hlen]; omega), getD_insertIdx hlen,
    if_neg (Nat.lt_irrefl i), if_pos rfl]

/-- What remains of a line that went in and out are the absent cells that made room for it. -/
theorem Rectangular.erase_insert (hg : g.Rectangular) (hi : i ≤ g.count axis)
    (values : List (Option α)) :
    (g.insert axis i values).erase axis i =
      if g.isEmpty then empty
      else g.stretch axis.cross (max (g.count axis.cross) values.length) := by
  have hinsert := hg.insert hi values
  have hlt := hg.lt_count_insert hi values
  by_cases hempty : g.isEmpty
  · have hcount := (hg.isEmpty_iff axis).1 hempty
    rw [if_pos hempty, (hinsert.erase hlt).eq_empty_iff axis, hinsert.count_erase hlt,
      hg.count_insert hi, hcount]
  · have hne : 0 < g.count .column :=
      Nat.pos_of_ne_zero fun h => hempty ((hg.isEmpty_iff .column).2 h)
    have hpos := hg.count_pos hne axis.cross
    have hlines : ((g.insert axis i values).erase axis i).lines axis =
        (g.stretch axis.cross (max (g.count axis.cross) values.length)).lines axis := by
      rw [hinsert.lines_erase hlt, hg.lines_insert hi, eraseIdx_filled,
        List.eraseIdx_insertIdx_self, hg.lines_stretch_cross hne]
      congr 1; omega
    rw [if_neg hempty]
    exact (hinsert.erase hlt).eq_of_lines (hg.stretch hne _ _) hlines

/-- A line that is put back where it was makes up for its removal. -/
theorem Rectangular.insert_erase (hg : g.Rectangular) (hi : i < g.count axis) :
    (g.erase axis i).insert axis i (g.line axis i) = g := by
  have herase := hg.erase hi
  have hslot := hg.le_count_erase hi
  have hlen : i < (g.lines axis).length := by rwa [length_lines]
  have hline : (g.lines axis)[i] = g.line axis i := by
    rw [← lines_getD g hi, List.getD_eq_getElem?_getD, List.getElem?_eq_getElem hlen,
      Option.getD_some]
  have hwidth : max ((g.erase axis i).count axis.cross) (max (g.line axis i).length 1) =
      g.count axis.cross := by
    have hpos := hg.count_pos hi axis.cross
    rw [hg.count_cross_erase hi, hg.length_line hi]
    split <;> omega
  have hlines : ((g.erase axis i).insert axis i (g.line axis i)).lines axis = g.lines axis := by
    rw [herase.lines_insert hslot, hwidth, hg.lines_erase hi, ← hline,
      List.insertIdx_eraseIdx_getElem hlen, hg.filled_lines]
  exact (herase.insert hslot _).eq_of_lines hg hlines

/-! ## Edits -/

/-- **A line that goes in makes room for itself and for nothing else.** It may go in before every
line and at the end of a grid, the empty one included, and after every line, which is to say before
the next one; each has an index as long as there are no more lines than indexes. A placeholder for
the first line of a grid would leave no trace. -/
theorem Reachable.insertion_makes_room (hg : g.Reachable) (axis : Axis)
    (values : List (Option α)) :
    (∀ index i, index.IsIndex i → i ≤ g.count axis →
      let inserted := (Edit.insert axis (.before index) values).run g
      inserted.1 = .ok .nothing ∧ inserted.2.grid.Inserts g axis i values) ∧
    (let inserted := (Edit.insert axis .atEnd values).run g
     inserted.1 = .ok .nothing ∧ inserted.2.grid.Inserts g axis (g.count axis) values ∧
      ∀ index, index.IsIndex (g.count axis) →
        inserted = (Edit.insert axis (.before index) values).run g) ∧
    (∀ index i, index.IsIndex i →
      (Edit.insert axis (.after index) values).run g =
        (Edit.insert axis (.before (.ofNat (i + 1))) values).run g) ∧
    (g.count axis < 2 ^ 53 → ∀ index,
      let inserted := (Edit.insert axis (.after index) values).run g
      ((∃ returned, inserted.1 = .ok returned) ↔ ∃ i, index.IsIndex i ∧ i < g.count axis) ∧
        ∀ i, index.IsIndex i → i < g.count axis → inserted.2.grid.Inserts g axis (i + 1) values) ∧
    ((blank 1 1).insert axis 0 values).erase axis 1 = (empty : Grid α).insert axis 0 values := by
  have hr := hg.rectangular
  have hbefore : ∀ index i, index.IsIndex i → i ≤ g.count axis →
      let inserted := (Edit.insert axis (.before index) values).run g
      inserted.1 = .ok .nothing ∧ inserted.2.grid.Inserts g axis i values := by
    intro index i hindex hi
    rw [Edit.run_insert_before hr hindex hi]
    exact ⟨rfl, hr.inserts hi values⟩
  have hafter : ∀ index i, index.IsIndex i →
      (Edit.insert axis (.after index) values).run g =
        (Edit.insert axis (.before (.ofNat (i + 1))) values).run g :=
    fun index i hindex => Edit.run_insert_after hr hindex values
  refine ⟨hbefore, ⟨?_, ?_, fun index hindex => Edit.run_insert_atEnd hr hindex values⟩, hafter,
    fun hcount index => ⟨?_, fun i hindex hi => ?_⟩, erase_insert_blank axis values⟩
  · rw [Edit.run_insert hr]; rfl
  · rw [Edit.run_insert hr]; exact hr.inserts (Nat.le_refl _) values
  · exact (Edit.checks_run hr (.insert axis (.after index) values)).succeeds.trans
      (SlotAddress.forall_met_after_iff hcount index)
  · have hnext : (Number.ofNat (i + 1)).IsIndex (i + 1) := Number.isIndex_ofNat (by omega)
    rw [hafter index i hindex]
    exact (hbefore _ _ hnext hi).2

/-- A row of two cells before the rows of a grid with one column, at the index minus zero. -/
theorem room_for_wide_row :
    let g := (Source.ofLines .column [[some (Value.whole 1), some (.whole 2)]]).run.2.grid
    let inserted := (Edit.insert .row (.before .negativeZero) [none, some (.whole 3)]).run g
    g.Reachable ∧ Number.negativeZero.IsIndex 0 ∧ 0 ≤ g.count .row ∧
      inserted.1 = .ok .nothing ∧
      inserted.2.grid.Inserts g .row 0 [none, some (.whole 3)] ∧
      inserted.2.grid =
        ⟨[[none, some (.whole 1), some (.whole 2)], [some (.whole 3), none, none]]⟩ := by
  intro g inserted
  have hg : g.Reachable := .built rfl
  have hzero : Number.negativeZero.IsIndex 0 := Number.toIndex?_eq_some_iff.1 (by decide)
  obtain ⟨hok, hinserts⟩ :=
    (hg.insertion_makes_room .row [none, some (.whole 3)]).1 _ _ hzero (Nat.zero_le _)
  exact ⟨hg, hzero, Nat.zero_le _, hok, hinserts, by decide +kernel⟩

/-- **Insertion and removal undo each other.** A line that went in comes out as long as the grid
made it, and the grid is left as wide as the line made it; the empty grid is left empty. A line
that came out goes in again and leaves the grid as it was, be it the only line. -/
theorem Reachable.insertion_undone (hg : g.Reachable) (axis : Axis) :
    (∀ index i values, index.IsIndex i → i ≤ g.count axis →
      let inserted := (Edit.insert axis (.before index) values).run g
      let removed := (Edit.remove axis (.nth index)).run inserted.2.grid
      inserted.1 = .ok .nothing ∧
        removed.1 = .ok (.line
          (values.rightpad (max (g.count axis.cross) (max values.length 1)) none)) ∧
        removed.2.grid = (if g.isEmpty then empty
          else g.stretch axis.cross (max (g.count axis.cross) values.length)) ∧
        (values.length ≤ g.count axis.cross → removed.2.grid = g)) ∧
    ∀ index i, index.IsIndex i → i < g.count axis →
      let removed := (Edit.remove axis (.nth index)).run g
      removed.1 = .ok (.line (g.line axis i)) ∧
        let inserted := (Edit.insert axis (.before index) (g.line axis i)).run removed.2.grid
        inserted.1 = .ok .nothing ∧ inserted.2.grid = g := by
  have hr := hg.rectangular
  refine ⟨fun index i values hindex hi => ?_, fun index i hindex hi => ?_⟩
  · have hlt := hr.lt_count_insert hi values
    dsimp only
    rw [Edit.run_insert_before hr hindex hi]
    dsimp only
    rw [Edit.run_remove_nth hindex hlt, hr.line_insert hi]
    dsimp only
    rw [hr.erase_insert hi]
    refine ⟨rfl, rfl, rfl, fun hshort => ?_⟩
    split
    · next hempty => exact ((hr.eq_empty_iff axis).2 ((hr.isEmpty_iff axis).1 hempty)).symm
    · exact hr.stretch_of_le (Nat.le_of_eq (Nat.max_eq_left hshort))
  · have hslot := hr.le_count_erase hi
    dsimp only
    rw [Edit.run_remove_nth hindex hi]
    dsimp only
    rw [Edit.run_insert_before (hr.erase hi) hindex hslot, hr.insert_erase hi]
    exact ⟨rfl, rfl, rfl⟩

/-- The only row of a grid comes out, which leaves nothing, and goes in again. A row of three cells
beside it comes out as it went in and leaves two more columns. -/
theorem only_row_put_back :
    let g := (Source.ofLines .row [[some (Value.whole 1)]]).run.2.grid
    let values := [none, some (Value.whole 2), none]
    let removed := (Edit.remove .row (.nth (.ofNat 0))).run g
    let inserted := (Edit.insert .row (.before (.ofNat 1)) values).run g
    g.Reachable ∧ (Number.ofNat 0).IsIndex 0 ∧ 0 < g.count .row ∧ removed.2.grid = .empty ∧
      ((Edit.insert .row (.before (.ofNat 0)) [some (.whole 1)]).run removed.2.grid).2.grid = g ∧
      (Number.ofNat 1).IsIndex 1 ∧ 1 ≤ g.count .row ∧
      ((Edit.remove .row (.nth (.ofNat 1))).run inserted.2.grid).1 = .ok (.line values) ∧
      ((Edit.remove .row (.nth (.ofNat 1))).run inserted.2.grid).2.grid =
        ⟨[[some (.whole 1)], [none], [none]]⟩ := by
  intro g values removed inserted
  have hg : g.Reachable := .built rfl
  have hindex : ∀ n < 2, (Number.ofNat n).IsIndex n := fun n hn =>
    Number.isIndex_ofNat (by omega)
  have hrow : 0 < g.count .row := by decide
  obtain ⟨hforth, hback⟩ := hg.insertion_undone .row
  obtain ⟨-, hline, hleft, -⟩ := hforth _ 1 values (hindex 1 (by decide)) hrow
  exact ⟨hg, hindex 0 (by decide), hrow, rfl, (hback _ 0 (hindex 0 (by decide)) hrow).2.2,
    hindex 1 (by decide), hrow, hline, hleft⟩

end Grid

end ElasticGrid
