import ElasticGrid.Proofs.Conservation
import ElasticGrid.Proofs.Insertion

/-!
# Edits in either order

Two lines can go into a grid, or come out of it, in either order, if the index of the one behind
takes account of the other one. The two orders let the grid grow at different moments and by
different amounts, and in the empty grid another line comes first; but all that lines are filled up
to in the end is the greatest of their lengths, so nothing of this remains to be seen.

A row and a column come out in either order too, as long as neither is the only one: when the only
row goes, there is no column left to be taken out.
-/

namespace ElasticGrid

variable {α : Type}

theorem eraseIdx_comm {β : Type} (l : List β) {i j : Nat} (hij : i ≤ j) :
    (l.eraseIdx (j + 1)).eraseIdx i = (l.eraseIdx i).eraseIdx j := by
  apply List.ext_getElem?
  intro k
  simp only [List.getElem?_eraseIdx]
  by_cases hk : k < i
  · rw [if_pos hk, if_pos (by omega), if_pos (by omega), if_pos hk]
  · by_cases hk' : k < j
    · rw [if_neg hk, if_pos (by omega), if_pos hk', if_neg hk]
    · rw [if_neg hk, if_neg (by omega), if_neg hk', if_neg (by omega)]

theorem filled_insertIdx (n i : Nat) (lines : List (List (Option α))) (values : List (Option α)) :
    filled n (lines.insertIdx i values) = (filled n lines).insertIdx i (values.rightpad n none) :=
  List.map_insertIdx _ lines i values

/-- Lines that are filled up in the end may as well be filled up before, but not any further. -/
theorem filled_insertIdx_filled {m n : Nat} (hmn : m ≤ n) (lines : List (List (Option α)))
    (i : Nat) (values : List (Option α)) :
    filled n ((filled m lines).insertIdx i values) = filled n (lines.insertIdx i values) := by
  rw [filled_insertIdx, filled_filled, Nat.max_eq_right hmn, filled_insertIdx]

namespace Grid

variable {g : Grid α} {axis : Axis} {i j : Nat}

/-! ## Two lines -/

theorem Rectangular.insert_insert (hg : g.Rectangular) (hij : i ≤ j) (hj : j ≤ g.count axis)
    (values values' : List (Option α)) :
    (g.insert axis j values').insert axis i values =
      (g.insert axis i values).insert axis (j + 1) values' := by
  have hi : i ≤ g.count axis := Nat.le_trans hij hj
  have hlate := hg.insert hj values'
  have hearly := hg.insert hi values
  have hi' : i ≤ (g.insert axis j values').count axis := by rw [hg.count_insert hj]; omega
  have hj' : j + 1 ≤ (g.insert axis i values).count axis := by rw [hg.count_insert hi]; omega
  have hlines : ((g.insert axis j values').insert axis i values).lines axis =
      ((g.insert axis i values).insert axis (j + 1) values').lines axis := by
    rw [hlate.lines_insert hi', hearly.lines_insert hj', hg.lines_insert hi, hg.lines_insert hj,
      hg.count_cross_insert hi, hg.count_cross_insert hj,
      filled_insertIdx_filled (Nat.le_max_left _ _), filled_insertIdx_filled (Nat.le_max_left _ _),
      List.insertIdx_comm _ _ hij (by rwa [length_lines])]
    congr 1; omega
  exact (hlate.insert hi' values).eq_of_lines (hearly.insert hj' values') hlines

theorem Rectangular.erase_erase (hg : g.Rectangular) (hij : i ≤ j) (hj : j + 1 < g.count axis) :
    (g.erase axis (j + 1)).erase axis i = (g.erase axis i).erase axis j := by
  have hi : i < g.count axis := by omega
  have hi' : i < (g.erase axis (j + 1)).count axis := by rw [hg.count_erase hj]; omega
  have hj' : j < (g.erase axis i).count axis := by rw [hg.count_erase hi]; omega
  have hlines : ((g.erase axis (j + 1)).erase axis i).lines axis =
      ((g.erase axis i).erase axis j).lines axis := by
    rw [(hg.erase hj).lines_erase hi', (hg.erase hi).lines_erase hj', hg.lines_erase hj,
      hg.lines_erase hi, eraseIdx_comm _ hij]
  exact ((hg.erase hj).erase hi').eq_of_lines ((hg.erase hi).erase hj') hlines

/-- The lines before one that comes out stay where they are, those behind it move up. -/
theorem Rectangular.line_erase (hg : g.Rectangular) (hi : i < g.count axis) {k : Nat}
    (hk : k < (g.erase axis i).count axis) :
    (g.erase axis i).line axis k = g.line axis (if k < i then k else k + 1) := by
  have hcount := hg.count_erase hi
  have hk' : (if k < i then k else k + 1) < g.count axis := by split <;> omega
  rw [← lines_getD _ hk, ← lines_getD _ hk', hg.lines_erase hi, getD_eraseIdx]
  split <;> rfl

/-- When a line comes out, the journal tells of it only if it was the last of all. -/
theorem Rectangular.run_remove_nth (hg : g.Rectangular) {index : Number}
    (hindex : index.IsIndex i) (hi : i < g.count axis) :
    (Edit.remove axis (.nth index)).run g = (.ok (.line (g.line axis i)),
      ⟨g.erase axis i, if g.count axis = 1 then [.collapsed axis] else []⟩) := by
  have hempty : (g.erase axis i).isEmpty ↔ g.count axis = 1 := by
    rw [(hg.erase hi).isEmpty_iff axis, hg.count_erase hi]; omega
  rw [Edit.run_remove_nth hindex hi]
  simp only [collapse, hempty]

theorem Rectangular.run_remove_of_kept (hg : g.Rectangular) {index : Number}
    (hindex : index.IsIndex i) (hi : i < g.count axis) (hkept : 1 < g.count axis) :
    (Edit.remove axis (.nth index)).run g =
      (.ok (.line (g.line axis i)), ⟨g.erase axis i, []⟩) := by
  rw [hg.run_remove_nth hindex hi, if_neg (Nat.ne_of_gt hkept)]

/-- A line that comes out takes one cell of each line across with it, unless it was the only one. -/
theorem Rectangular.lines_cross_erase (hg : g.Rectangular) (hi : i < g.count axis)
    (hkept : 1 < g.count axis) :
    (g.erase axis i).lines axis.cross = (g.lines axis.cross).map fun line => line.eraseIdx i := by
  have hcolumns : ∀ {h : Grid α}, h.Rectangular → i < h.rowCount → 1 < h.rowCount →
      (h.eraseRow i).columns = h.columns.map fun column => column.eraseIdx i := by
    intro h hh hi hkept
    have hcount := (hh.hasShape.eraseRow hi).rowCount
    rw [eraseRow] at hcount ⊢
    split at hcount
    · rw [rowCount_empty] at hcount; omega
    · next hrest => rw [if_neg hrest]
  cases axis
  · rw [← (hg.erase hi).lines_flip, hg.flip_erase hi, ← hg.lines_flip (Axis.cross .column)]
    rw [← hg.count_flip] at hi hkept
    exact hcolumns hg.flip hi hkept
  · exact hcolumns hg hi hkept

theorem Rectangular.count_cross_erase_of_kept (hg : g.Rectangular) (hi : i < g.count axis)
    (hkept : 1 < g.count axis) : (g.erase axis i).count axis.cross = g.count axis.cross := by
  rw [hg.count_cross_erase hi, if_neg (Nat.ne_of_gt hkept)]

theorem Rectangular.line_cross_erase (hg : g.Rectangular) (hi : i < g.count axis)
    (hkept : 1 < g.count axis) (hj : j < g.count axis.cross) :
    (g.erase axis i).line axis.cross j = (g.line axis.cross j).eraseIdx i := by
  have hj' : j < (g.erase axis i).count axis.cross := by rwa [hg.count_cross_erase_of_kept hi hkept]
  rw [← lines_getD _ hj', hg.lines_cross_erase hi hkept, getD_map_nil _ rfl, lines_getD _ hj]

theorem Rectangular.erase_erase_cross (hg : g.Rectangular) (hi : i < g.count axis)
    (hj : j < g.count axis.cross) (hkept : 1 < g.count axis) (hkept' : 1 < g.count axis.cross) :
    (g.erase axis i).erase axis.cross j = (g.erase axis.cross j).erase axis i := by
  have hcross := hg.count_cross_erase_of_kept hi hkept
  have hcount := hg.count_cross_erase_of_kept hj hkept'
  rw [Axis.cross_cross] at hcount
  have hj' : j < (g.erase axis i).count axis.cross := by rwa [hcross]
  have hi' : i < (g.erase axis.cross j).count axis := by rwa [hcount]
  have hlines : ((g.erase axis i).erase axis.cross j).lines axis.cross =
      ((g.erase axis.cross j).erase axis i).lines axis.cross := by
    rw [(hg.erase hi).lines_erase hj', (hg.erase hj).lines_cross_erase hi' (by rwa [hcount]),
      hg.lines_erase hj, hg.lines_cross_erase hi hkept, List.eraseIdx_map]
  exact ((hg.erase hi).erase hj').eq_of_lines ((hg.erase hj).erase hi') hlines

/-- A row and a column can be taken out one after the other if neither is the only one. -/
theorem Rectangular.trail_remove_cross (hg : g.Rectangular) {index other : Number}
    (hindex : index.IsIndex i) (hother : other.IsIndex j) (hi : i < g.count axis)
    (hj : j < g.count axis.cross) (hkept : 1 < g.count axis) (hkept' : 1 < g.count axis.cross) :
    g.Trail [(.remove axis (.nth index), .line (g.line axis i)),
      (.remove axis.cross (.nth other), .line ((g.line axis.cross j).eraseIdx i))] []
      ((g.erase axis i).erase axis.cross j) := by
  have hcross := hg.count_cross_erase_of_kept hi hkept
  have hlater := (hg.erase hi).run_remove_of_kept hother (by rwa [hcross]) (by rwa [hcross])
  rw [hg.line_cross_erase hi hkept hj] at hlater
  exact .quiet (hg.run_remove_of_kept hindex hi hkept) (.last hlater)

/-! ## Trails -/

/-- **Edits of the lines along one axis can be done in either order**, with the same cells given
back and the same grid in the end, if the index of the line behind is one more while the line before
it is there. When two lines come out, the journal tells the same either way: that nothing was left,
if there were only two. A row and a column come out in either order if neither is the only one; the
second of them lacks the cell that went with the first. -/
theorem Reachable.edits_in_either_order (hg : g.Reachable) (axis : Axis) :
    (∀ front back next i j values values', front.IsIndex i → back.IsIndex j →
      next.IsIndex (j + 1) → i ≤ j → j ≤ g.count axis → ∃ h events events',
        g.Trail [(.insert axis (.before back) values', .nothing),
          (.insert axis (.before front) values, .nothing)] events h ∧
        g.Trail [(.insert axis (.before front) values, .nothing),
          (.insert axis (.before next) values', .nothing)] events' h) ∧
    (∀ front back previous i j, front.IsIndex i → back.IsIndex (j + 1) → previous.IsIndex j →
      i ≤ j → j + 1 < g.count axis → ∃ h,
        let events := if g.count axis = 2 then [.collapsed axis] else []
        g.Trail [(.remove axis (.nth back), .line (g.line axis (j + 1))),
          (.remove axis (.nth front), .line (g.line axis i))] events h ∧
        g.Trail [(.remove axis (.nth front), .line (g.line axis i)),
          (.remove axis (.nth previous), .line (g.line axis (j + 1)))] events h ∧
        (h = empty ↔ g.count axis = 2)) ∧
    ∀ index other i j, index.IsIndex i → other.IsIndex j → i < g.count axis →
      j < g.count axis.cross → 1 < g.count axis → 1 < g.count axis.cross → ∃ h,
        g.Trail [(.remove axis (.nth index), .line (g.line axis i)),
          (.remove axis.cross (.nth other), .line ((g.line axis.cross j).eraseIdx i))] [] h ∧
        g.Trail [(.remove axis.cross (.nth other), .line (g.line axis.cross j)),
          (.remove axis (.nth index), .line ((g.line axis i).eraseIdx j))] [] h := by
  have hr := hg.rectangular
  refine ⟨fun front back next i j values values' hfront hback hnext hij hj => ?_,
    fun front back previous i j hfront hback hprevious hij hj => ?_,
    fun index other i j hindex hother hi hj hkept hkept' => ?_⟩
  · have hi : i ≤ g.count axis := Nat.le_trans hij hj
    have hi' : i ≤ (g.insert axis j values').count axis := by rw [hr.count_insert hj]; omega
    have hj' : j + 1 ≤ (g.insert axis i values).count axis := by rw [hr.count_insert hi]; omega
    have hlate := Edit.run_insert_before (hr.insert hj values') hfront hi' values
    have hearly := Edit.run_insert_before (hr.insert hi values) hnext hj' values'
    rw [hr.insert_insert hij hj] at hlate
    exact ⟨_, _, _, .step (Edit.run_insert_before hr hback hj values') (.last hlate),
      .step (Edit.run_insert_before hr hfront hi values) (.last hearly)⟩
  · have hi : i < g.count axis := by omega
    have hkept : 1 < g.count axis := by omega
    have hi' : i < (g.erase axis (j + 1)).count axis := by rw [hr.count_erase hj]; omega
    have hj' : j < (g.erase axis i).count axis := by rw [hr.count_erase hi]; omega
    have hone : ∀ n : Nat, n - 1 = 1 ↔ n = 2 := by omega
    have hlate := (hr.erase hj).run_remove_nth hfront hi'
    have hearly := (hr.erase hi).run_remove_nth hprevious hj'
    rw [hr.line_erase hj hi', if_pos (by omega), hr.count_erase hj, hr.erase_erase hij hj] at hlate
    rw [hr.line_erase hi hj', if_neg (by omega), hr.count_erase hi] at hearly
    simp only [hone] at hlate hearly
    refine ⟨_, .quiet (hr.run_remove_of_kept hback hj hkept) (.last hlate),
      .quiet (hr.run_remove_of_kept hfront hi hkept) (.last hearly), ?_⟩
    rw [((hr.erase hi).erase hj').eq_empty_iff axis, (hr.erase hi).count_erase hj',
      hr.count_erase hi]
    omega
  · have htrail := hr.trail_remove_cross hindex hother hi hj hkept hkept'
    rw [hr.erase_erase_cross hi hj hkept hkept'] at htrail
    rw [← axis.cross_cross] at hi hkept
    have htrail' := hr.trail_remove_cross hother hindex hj hi hkept' hkept
    rw [Axis.cross_cross] at htrail'
    exact ⟨_, htrail, htrail'⟩

/-- Two rows go into the empty grid, both as its first row at that moment, or the one for the front
first. They come out again, and nothing is left. A row and a column of the two come out. -/
theorem two_rows_in_either_order :
    let values := [some (Value.whole 1)]
    let values' := [none, some (Value.whole 2)]
    let g := (Source.ofLines .row [values, values']).run.2.grid
    let first := Number.negativeZero
    let second := Number.ofNat 1
    g.Reachable ∧ first.IsIndex 0 ∧ second.IsIndex 1 ∧ 0 ≤ (empty : Grid Value).count .row ∧
      0 + 1 < g.count .row ∧ 1 < g.count .column ∧
      (∃ events events',
        empty.Trail [(.insert .row (.before first) values', .nothing),
          (.insert .row (.before first) values, .nothing)] events g ∧
        empty.Trail [(.insert .row (.before first) values, .nothing),
          (.insert .row (.before second) values', .nothing)] events' g) ∧
      g.Trail [(.remove .row (.nth second), .line values'),
        (.remove .row (.nth first), .line [some (.whole 1), none])] [.collapsed .row] empty ∧
      g.Trail [(.remove .row (.nth first), .line [some (.whole 1), none]),
        (.remove .row (.nth first), .line values')] [.collapsed .row] empty ∧
      ∃ h, h.columns = [[some (.whole 2)]] ∧
        g.Trail [(.remove .row (.nth first), .line [some (.whole 1), none]),
          (.remove .column (.nth first), .line [none])] [] h ∧
        g.Trail [(.remove .column (.nth first), .line [some (.whole 1), none]),
          (.remove .row (.nth first), .line [none])] [] h := by
  intro values values' g first second
  have hg : g.Reachable := .built rfl
  have hfirst : first.IsIndex 0 := Number.toIndex?_eq_some_iff.1 (by decide)
  have hsecond : second.IsIndex 1 := Number.isIndex_ofNat (by decide)
  have hrows : 0 + 1 < g.count .row := by decide
  have hcolumns : 1 < g.count .column := by decide
  obtain ⟨h, events, events', hlate, hearly⟩ := (reachable_empty.edits_in_either_order .row).1
    first first second 0 0 values values' hfirst hfirst hsecond (Nat.le_refl 0) (Nat.le_refl 0)
  obtain ⟨k, hback, hfront, hempty⟩ := (hg.edits_in_either_order .row).2.1
    first second first 0 0 hfirst hsecond hfirst (Nat.le_refl 0) hrows
  obtain ⟨l, hrow, hcolumn⟩ := (hg.edits_in_either_order .row).2.2
    first first 0 0 hfirst hfirst (by decide) (by decide) hrows hcolumns
  have hboth : empty.after [.insert .row (.before first) values',
      .insert .row (.before first) values] = g := by decide +kernel
  have hlast : g.line .row (0 + 1) = values' := by decide +kernel
  have hline : ∀ axis, g.line axis 0 = [some (.whole 1), none] := fun axis => by
    cases axis <;> decide +kernel
  obtain rfl : h = g := hlate.after_eq.symm.trans hboth
  obtain rfl : k = empty := hempty.2 (by decide)
  rw [hlast, hline] at hback hfront
  rw [hline, hline] at hrow hcolumn
  have hl : l.columns = [[some (.whole 2)]] := by rw [← hrow.after_eq]; decide +kernel
  exact ⟨hg, hfirst, hsecond, Nat.le_refl 0, hrows, hcolumns, ⟨events, events', hlate, hearly⟩,
    hback, hfront, l, hl, hrow, hcolumn⟩

end Grid

end ElasticGrid
