import ElasticGrid.Proofs.Conservation
import ElasticGrid.Proofs.Duality
import ElasticGrid.Proofs.Lines
import Mathlib.Order.Bounds.Defs

/-!
# Packing is tight

A packed grid is as large as its values need it to be, and no larger: the last line along an axis
that was packed holds a value (`packedCount_eq_succ_iff`). No cell is changed. So the order in
which the axes are packed does not matter, and packing once is enough.

To pack is to take away the last line as long as it is blank. `Strips` does so line by line, with
the edits that remove a line, until a line holds a value or nothing is left; it comes to an end,
and what it comes to is the packed grid (`Rectangular.strips_iff`).
-/

namespace ElasticGrid

variable {α : Type}

namespace Grid

variable {g h : Grid α} {axis : Axis} {i n : Nat}

def occupied (g : Grid α) (axis : Axis) : Set Nat := {i | ∃ j, g.get (axis.position i j) ≠ none}

theorem Rectangular.packedCount_le_iff (hg : g.Rectangular) (axis : Axis) (n : Nat) :
    g.packedCount axis ≤ n ↔ ∀ i ∈ g.occupied axis, i < n := by
  have hcells : g.packedCount axis ≤ n ↔ ∀ i j, n ≤ i → g.get (axis.position i j) = none := by
    cases axis
    · exact packedCount_column_le_iff
    · exact hg.hasShape.packedCount_row_le_iff.trans ⟨fun h i j => h j i, fun h x y => h y x⟩
  rw [hcells]
  refine ⟨fun hblank i ⟨j, hj⟩ => ?_, fun hlt i j hi => ?_⟩
  · by_contra hi
    exact hj (hblank i j (Nat.le_of_not_lt hi))
  · by_contra hj
    exact Nat.not_lt_of_le hi (hlt i ⟨j, hj⟩)

/-- As many lines are kept as it takes to keep the last one that holds a value. -/
theorem Rectangular.packedCount_eq_succ_iff (hg : g.Rectangular) (axis : Axis) (last : Nat) :
    g.packedCount axis = last + 1 ↔ IsGreatest (g.occupied axis) last := by
  have hle := hg.packedCount_le_iff axis
  constructor
  · intro heq
    have hbound : ∀ i ∈ g.occupied axis, i ≤ last := fun i hi =>
      Nat.le_of_lt_succ ((hle (last + 1)).1 (Nat.le_of_eq heq) i hi)
    refine ⟨?_, hbound⟩
    by_contra hlast
    have : g.packedCount axis ≤ last := (hle last).2 fun i hi =>
      Nat.lt_of_le_of_ne (hbound i hi) fun h => hlast (h ▸ hi)
    omega
  · rintro ⟨hlast, hbound⟩
    have hupper : g.packedCount axis ≤ last + 1 :=
      (hle _).2 fun i hi => Nat.lt_succ_of_le (hbound hi)
    have hlower : ¬g.packedCount axis ≤ last := fun h => Nat.lt_irrefl _ ((hle _).1 h _ hlast)
    omega

theorem Rectangular.exists_isGreatest (hg : g.Rectangular) {p : Position} (hp : g.get p ≠ none)
    (axis : Axis) : ∃ last, IsGreatest (g.occupied axis) last := by
  have hkept : g.packedCount axis ≠ 0 := fun hzero =>
    hp ((hg.hasShape.packedCount_eq_zero_iff axis).1 hzero p.x p.y)
  obtain ⟨last, hlast⟩ := Nat.exists_eq_succ_of_ne_zero hkept
  exact ⟨last, (hg.packedCount_eq_succ_iff axis last).1 hlast⟩

theorem Rectangular.packedCount_packIf (hg : g.Rectangular) (other : Axis) (wanted : Bool)
    (axis : Axis) : (g.packIf other wanted).packedCount axis = g.packedCount axis :=
  (hg.packIf other wanted).hasShape.packedCount_congr hg.hasShape
    (fun x y => by rw [hg.cell_packIf]) axis

theorem Rectangular.count_packIf (hg : g.Rectangular) (axis : Axis) (wanted : Bool) :
    (g.packIf axis wanted).count axis = if wanted then g.packedCount axis else g.count axis := by
  cases wanted
  · rfl
  · exact hg.count_pack axis

theorem Rectangular.get_packIf (hg : g.Rectangular) (axis : Axis) (wanted : Bool) (p : Position) :
    (g.packIf axis wanted).get p = g.get p :=
  hg.cell_packIf axis wanted p.x p.y

theorem columnCount_ne_zero_of_get {p : Position} (hp : g.get p ≠ none) : g.columnCount ≠ 0 :=
  fun hzero => hp (cell_of_columnCount_le g (by omega) p.y)

theorem Rectangular.size_packIf_packIf (hg : g.Rectangular) {last : Position}
    (hcolumn : IsGreatest (g.occupied .column) last.x)
    (hrow : IsGreatest (g.occupied .row) last.y) (rows columns : Bool) :
    ((g.packIf .row rows).packIf .column columns).size =
      ⟨if columns then last.x + 1 else g.columnCount, if rows then last.y + 1 else g.rowCount⟩ := by
  have hmid := hg.packIf .row rows
  obtain ⟨j, hvalue⟩ := hcolumn.1
  have hkept : (g.packIf .row rows).get (Axis.column.position last.x j) ≠ none := by
    rwa [hg.get_packIf]
  have hkept' : ((g.packIf .row rows).packIf .column columns).get
      (Axis.column.position last.x j) ≠ none := by
    rwa [hmid.get_packIf]
  have hx : ((g.packIf .row rows).packIf .column columns).columnCount =
      if columns then last.x + 1 else g.columnCount := by
    have hcross : (g.packIf .row rows).count .column = g.count .column :=
      hg.count_cross_packIf (columnCount_ne_zero_of_get hkept)
    have hcount := hmid.count_packIf .column columns
    rwa [hg.packedCount_packIf, (hg.packedCount_eq_succ_iff .column last.x).2 hcolumn, hcross]
      at hcount
  have hy : ((g.packIf .row rows).packIf .column columns).rowCount =
      if rows then last.y + 1 else g.rowCount := by
    have hcross : ((g.packIf .row rows).packIf .column columns).count .row =
        (g.packIf .row rows).count .row :=
      hmid.count_cross_packIf (columnCount_ne_zero_of_get hkept')
    have hcount := hg.count_packIf .row rows
    rwa [← hcross, (hg.packedCount_eq_succ_iff .row last.y).2 hrow] at hcount
  rw [size, hx, hy]

/-- A grid without values has nothing left to it, whichever axis is packed. -/
theorem Rectangular.packIf_packIf_of_blank (hg : g.Rectangular)
    (hblank : ∀ x y, g.cell x y = none) {rows columns : Bool} (hwanted : rows ∨ columns) :
    (g.packIf .row rows).packIf .column columns = empty := by
  have hmid := hg.packIf .row rows
  rw [(hmid.packIf .column columns).eq_empty_iff .column]
  refine (hmid.columnCount_packIf_eq_zero_iff .column columns).2 ?_
  rcases hwanted with hrows | hcolumns
  · exact .inl ((hg.columnCount_packIf_eq_zero_iff .row rows).2 (.inr ⟨hrows, hblank⟩))
  · exact .inr ⟨hcolumns, fun x y => by rw [hg.cell_packIf, hblank]⟩

theorem Rectangular.packIf_idem (hg : g.Rectangular) (axis : Axis) (wanted : Bool) :
    (g.packIf axis wanted).packIf axis wanted = g.packIf axis wanted := by
  cases wanted
  · rfl
  · have hpack := hg.pack axis
    have hlines : ((g.pack axis).pack axis).lines axis = (g.pack axis).lines axis := by
      rw [hpack.lines_pack, hg.lines_pack, dropTrailing_dropTrailing]
    exact (hpack.pack axis).eq_of_lines hpack hlines

theorem Rectangular.packIf_packIf_idem (hg : g.Rectangular) (rows columns : Bool) :
    let packed := (g.packIf .row rows).packIf .column columns
    (packed.packIf .row rows).packIf .column columns = packed := by
  intro packed
  have hmid := hg.packIf .row rows
  have hswap : packed.packIf .row rows =
      ((g.packIf .row rows).packIf .row rows).packIf .column columns :=
    hmid.packIf_packIf rows columns
  rw [hswap, hg.packIf_idem, hmid.packIf_idem]

/-! ## Line by line -/

theorem findLine_last_eq_ok_iff : g.findLine axis .last = .ok i ↔ g.count axis = i + 1 := by
  unfold findLine
  cases g.count axis with
  | zero => exact ⟨fun h => (nomatch h), fun h => by omega⟩
  | succ last =>
    refine ⟨fun h => ?_, fun h => ?_⟩
    · obtain rfl := Except.ok.inj h
      rfl
    · obtain rfl := Nat.succ.inj h
      rfl

/-- `n` lines are taken away at the far end of an axis, for as long as the last one is blank and if
it is wanted at all. The events are those of the removals, one after the other. -/
inductive Strips (axis : Axis) : Bool → Nat → List Event → Grid α → Grid α → Prop where
  | unwanted (g : Grid α) : Strips axis false 0 [] g g
  | done {g : Grid α} :
    (∀ i, g.findLine axis .last = .ok i → ¬isBlankLine (g.line axis i)) → Strips axis true 0 [] g g
  | strip {g h : Grid α} {i n : Nat} {events : List Event} :
    g.findLine axis .last = .ok i → isBlankLine (g.line axis i) →
      Strips axis true n events ((Edit.remove axis .last).run g).2.grid h →
      Strips axis true (n + 1) (((Edit.remove axis .last).run g).2.events ++ events) g h

theorem run_remove_last (hlast : g.findLine axis .last = .ok i) :
    ((Edit.remove axis .last).run g).2 = ⟨g.erase axis i, (g.erase axis i).collapse axis⟩ := by
  rw [Edit.run_remove, hlast]
  rfl

theorem Rectangular.lines_last (hg : g.Rectangular) (hcount : g.count axis = i + 1) :
    g.lines axis = (g.erase axis i).lines axis ++ [g.line axis i] := by
  have hi : i < g.count axis := by omega
  have hlen : i + 1 = (g.lines axis).length := by rw [length_lines, hcount]
  have hne : g.lines axis ≠ [] := List.ne_nil_of_length_pos (by omega)
  have hline : g.line axis i = (g.lines axis).getLast hne := by
    rw [← lines_getD g hi, List.getD_eq_getElem _ _ (by omega), List.getLast_eq_getElem]
    congr 1
    omega
  rw [hg.lines_erase hi, List.eraseIdx_eq_dropLast hlen, hline, List.dropLast_append_getLast]

/-- Without the last line a grid is packed to the same if that line is blank. -/
theorem Rectangular.pack_erase (hg : g.Rectangular) (hcount : g.count axis = i + 1)
    (hblank : isBlankLine (g.line axis i)) : (g.erase axis i).pack axis = g.pack axis := by
  have herase := hg.erase (show i < g.count axis by omega)
  have hlines : ((g.erase axis i).pack axis).lines axis = (g.pack axis).lines axis := by
    rw [herase.lines_pack, hg.lines_pack, hg.lines_last hcount, dropTrailing_concat, if_pos hblank]
  exact (herase.pack axis).eq_of_lines (hg.pack axis) hlines

/-- With a value in its last line a grid is packed. -/
theorem Rectangular.pack_of_done (hg : g.Rectangular)
    (hdone : ∀ i, g.findLine axis .last = .ok i → ¬isBlankLine (g.line axis i)) :
    g.pack axis = g := by
  have hlines : (g.pack axis).lines axis = g.lines axis := by
    rw [hg.lines_pack]
    cases hcount : g.count axis with
    | zero => rw [List.eq_nil_of_length_eq_zero ((g.length_lines axis).trans hcount)]; rfl
    | succ last =>
      have hvalue := hdone last (findLine_last_eq_ok_iff.2 hcount)
      rw [hg.lines_last hcount, dropTrailing_concat, if_neg hvalue]
  exact (hg.pack axis).eq_of_lines hg hlines

theorem packCollapse_eq (g : Grid α) (axis : Axis) (wanted : Bool) :
    g.packCollapse axis wanted =
      if g.columnCount ≠ 0 ∧ (g.packIf axis wanted).columnCount = 0 then [.collapsed axis]
      else [] := by
  simp only [packCollapse, collapse, isEmpty_iff_columnCount]
  by_cases hempty : g.columnCount = 0 <;> simp [hempty]

/-- A grid collapses when the last of its blank lines goes, with or without others before it. -/
theorem Rectangular.collapse_append_packCollapse (hg : g.Rectangular) (hcount : g.count axis = i + 1)
    (hblank : isBlankLine (g.line axis i)) :
    (g.erase axis i).collapse axis ++ (g.erase axis i).packCollapse axis true =
      g.packCollapse axis true := by
  have herase := hg.erase (show i < g.count axis by omega)
  have hpack : (g.erase axis i).packIf axis true = g.packIf axis true := hg.pack_erase hcount hblank
  have hne : g.columnCount ≠ 0 := by
    rw [Ne, ← isEmpty_iff_columnCount, hg.isEmpty_iff axis, hcount]
    exact Nat.succ_ne_zero i
  rw [packCollapse_eq, packCollapse_eq, hpack, collapse]
  by_cases hempty : (g.erase axis i).columnCount = 0
  · have hpacked : (g.packIf axis true).columnCount = 0 :=
      hpack ▸ (herase.columnCount_packIf_eq_zero_iff axis true).2 (.inl hempty)
    rw [if_pos ((isEmpty_iff_columnCount _).2 hempty), if_neg fun h => h.1 hempty,
      if_pos ⟨hne, hpacked⟩]
    rfl
  · rw [if_neg fun h => hempty ((isEmpty_iff_columnCount _).1 h)]
    simp only [ne_eq, hempty, hne, not_false_eq_true, true_and, List.nil_append]

theorem Strips.eq {wanted : Bool} {events : List Event} (hstrips : Strips axis wanted n events g h)
    (hg : g.Rectangular) :
    h = g.packIf axis wanted ∧ n = g.packLoss axis wanted ∧ events = g.packCollapse axis wanted := by
  induction hstrips with
  | unwanted g => exact ⟨rfl, (g.packLoss_false axis).symm, (g.packCollapse_false axis).symm⟩
  | @done g hdone =>
    have hpack : g.packIf axis true = g := hg.pack_of_done hdone
    refine ⟨hpack.symm, ?_, ?_⟩
    · rw [packLoss, hpack, Nat.sub_self]
    · rw [packCollapse_eq, hpack, if_neg fun h => h.1 h.2]
  | @strip g h i n events hlast hblank _ ih =>
    have hcount := findLine_last_eq_ok_iff.1 hlast
    have hi : i < g.count axis := by omega
    rw [run_remove_last hlast] at ih ⊢
    obtain ⟨rfl, rfl, rfl⟩ := ih (hg.erase hi)
    have hpack : (g.erase axis i).packIf axis true = g.packIf axis true :=
      hg.pack_erase hcount hblank
    have hle := (hg.erase hi).count_packIf_le axis true
    refine ⟨hpack, ?_, hg.collapse_append_packCollapse hcount hblank⟩
    rw [packLoss, packLoss, hg.count_erase hi, hpack]
    rw [hg.count_erase hi, hpack] at hle
    omega

/-- Each line that is taken away brings the end nearer. -/
theorem Rectangular.exists_strips (hg : g.Rectangular) (axis : Axis) (wanted : Bool) :
    ∃ n events h, Strips axis wanted n events g h := by
  cases wanted with
  | false => exact ⟨0, [], g, .unwanted g⟩
  | true =>
    induction hcount : g.count axis generalizing g with
    | zero =>
      refine ⟨0, [], g, .done fun i hlast => ?_⟩
      have := findLine_last_eq_ok_iff.1 hlast
      omega
    | succ last ih =>
      have hlast := findLine_last_eq_ok_iff.2 hcount
      by_cases hblank : isBlankLine (g.line axis last)
      · have hi : last < g.count axis := by omega
        obtain ⟨n, events, h, hstrips⟩ := ih (hg.erase hi) (by rw [hg.count_erase hi]; omega)
        have hgrid : ((Edit.remove axis .last).run g).2.grid = g.erase axis last := by
          rw [run_remove_last hlast]
        rw [← hgrid] at hstrips
        exact ⟨n + 1, _, h, .strip hlast hblank hstrips⟩
      · refine ⟨0, [], g, .done fun i hi => ?_⟩
        obtain rfl := Except.ok.inj (hlast.symm.trans hi)
        exact hblank

/-- To take away blank lines one by one is to pack, and it comes to an end. -/
theorem Rectangular.strips_iff (hg : g.Rectangular) {wanted : Bool} {events : List Event} :
    Strips axis wanted n events g h ↔
      h = g.packIf axis wanted ∧ n = g.packLoss axis wanted ∧
        events = g.packCollapse axis wanted := by
  refine ⟨fun hstrips => hstrips.eq hg, ?_⟩
  rintro ⟨rfl, rfl, rfl⟩
  obtain ⟨n, events, h, hstrips⟩ := hg.exists_strips axis wanted
  obtain ⟨rfl, rfl, rfl⟩ := hstrips.eq hg
  exact hstrips

/-! ## Edits -/

/-- **Packing leaves the least grid around the values.** Each axis that is packed reaches to the
last value along it, the other one stays as it is, and without a value nothing is left. No cell
changes. It is all the same whether rows or columns are packed first, to pack again does nothing,
and blank lines that are taken away one by one come to the same end, which they do come to, with the
same events. -/
theorem Reachable.packing_is_tight (hg : g.Reachable) :
    (∀ rows columns,
      let packed := (Edit.pack rows columns).run g
      packed.1 = .ok .nothing ∧
        (∀ p, packed.2.grid.get p = g.get p) ∧
        ((∀ p, g.get p = none) → rows ∨ columns → packed.2.grid = empty) ∧
        (∀ last : Position, IsGreatest (g.occupied .column) last.x →
          IsGreatest (g.occupied .row) last.y →
          packed.2.grid.size = ⟨if columns then last.x + 1 else g.columnCount,
            if rows then last.y + 1 else g.rowCount⟩) ∧
        ((Edit.pack rows columns).run packed.2.grid).2.grid = packed.2.grid ∧
        ∀ left : Draft α, (∃ mid m n before after, Strips .row rows m before g mid ∧
          Strips .column columns n after mid left.grid ∧
          left.events = before ++ after ++ if 0 < m ∨ 0 < n then [.packed m n] else []) ↔
          left = packed.2) ∧
    ((∃ p, g.get p ≠ none) → ∃ last : Position,
      IsGreatest (g.occupied .column) last.x ∧ IsGreatest (g.occupied .row) last.y) ∧
    g.after [.pack true false, .pack false true] = g.after [.pack true true] ∧
    g.after [.pack false true, .pack true false] = g.after [.pack true true] := by
  have hr := hg.rectangular
  refine ⟨fun rows columns => ?_, ?_, ?_, ?_⟩
  · have hmid := hr.packIf .row rows
    dsimp only
    rw [Edit.run_pack]
    dsimp only
    rw [Edit.run_pack]
    refine ⟨rfl, fun p => ?_, fun hblank hwanted => ?_, fun last hcolumn hrow => ?_, ?_,
      fun left => ⟨?_, ?_⟩⟩
    · rw [hmid.get_packIf, hr.get_packIf]
    · exact hr.packIf_packIf_of_blank (fun x y => hblank ⟨x, y⟩) hwanted
    · exact hr.size_packIf_packIf hcolumn hrow rows columns
    · exact hr.packIf_packIf_idem rows columns
    · rintro ⟨mid, m, n, before, after, hrows, hcolumns, hevents⟩
      obtain ⟨rfl, rfl, rfl⟩ := hrows.eq hr
      obtain ⟨hgrid, rfl, rfl⟩ := hcolumns.eq hmid
      rw [packing, ← hgrid, ← hevents]
    · rintro rfl
      exact ⟨_, _, _, _, _, hr.strips_iff.2 ⟨rfl, rfl, rfl⟩,
        hmid.strips_iff.2 ⟨rfl, rfl, rfl⟩, rfl⟩
  · rintro ⟨p, hp⟩
    obtain ⟨x, hx⟩ := hr.exists_isGreatest hp .column
    obtain ⟨y, hy⟩ := hr.exists_isGreatest hp .row
    exact ⟨⟨x, y⟩, hx, hy⟩
  · simp only [after, List.foldl_cons, List.foldl_nil, Edit.run_pack, packIf_false]
  · simp only [after, List.foldl_cons, List.foldl_nil, Edit.run_pack, packIf_false]
    exact hr.packIf_packIf true true

/-- One value in three rows of three cells, with a blank row before it and one behind it. -/
theorem value_in_the_middle :
    let g := (Source.ofLines .row [[none], [none, some (Value.whole 1), none], [none]]).run.2.grid
    let packed := (Edit.pack true true).run g
    g.Reachable ∧ IsGreatest (g.occupied .column) 1 ∧ IsGreatest (g.occupied .row) 1 ∧
      g.size = ⟨3, 3⟩ ∧ packed.2.grid.size = ⟨2, 2⟩ ∧
      (∀ p, packed.2.grid.get p = g.get p) ∧
      g.after [.pack false true, .pack true false] = packed.2.grid ∧
      packed.2.grid = ⟨[[none, none], [none, some (.whole 1)]]⟩ := by
  intro g packed
  have hg : g.Reachable := .built rfl
  have hr := hg.rectangular
  have hcolumn : IsGreatest (g.occupied .column) 1 :=
    (hr.packedCount_eq_succ_iff .column 1).1 (by decide +kernel)
  have hrow : IsGreatest (g.occupied .row) 1 :=
    (hr.packedCount_eq_succ_iff .row 1).1 (by decide +kernel)
  have hthree : g.size = ⟨3, 3⟩ := by decide +kernel
  have hpacked : packed.2.grid = ⟨[[none, none], [none, some (.whole 1)]]⟩ := by decide +kernel
  clear_value g
  obtain ⟨hpack, -, -, horder⟩ := hg.packing_is_tight
  obtain ⟨-, hget, -, hsize, -⟩ := hpack true true
  exact ⟨hg, hcolumn, hrow, hthree, hsize ⟨1, 1⟩ hcolumn hrow, hget, horder, hpacked⟩

end Grid

end ElasticGrid
