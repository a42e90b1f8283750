import ElasticGrid.Proofs.Refusal
import ElasticGrid.Proofs.Replacement
import Mathlib.GroupTheory.Perm.Basic

/-!
# Swaps as transpositions

A swap permutes the cells of a grid: that of two cells by the transposition of their positions,
that of two lines by a transposition of indexes that every line across goes through
(`Axis.permute`). The permutation says all that is to be said (`Permuted.eq`), so what holds of
swaps follows from what holds of transpositions. It makes no difference whether columns are
exchanged as they are or rows cell by cell.
-/

namespace ElasticGrid

variable {α : Type} {axis : Axis} {i j : Nat}

namespace Axis

def permute : Axis → Equiv.Perm Nat →* Equiv.Perm Position
  | column =>
    { toFun σ :=
        { toFun p := ⟨σ p.x, p.y⟩
          invFun p := ⟨σ.symm p.x, p.y⟩
          left_inv p := by simp
          right_inv p := by simp }
      map_one' := rfl
      map_mul' _ _ := rfl }
  | row =>
    { toFun σ :=
        { toFun p := ⟨p.x, σ p.y⟩
          invFun p := ⟨p.x, σ.symm p.y⟩
          left_inv p := by simp
          right_inv p := by simp }
      map_one' := rfl
      map_mul' _ _ := rfl }

theorem permute_position (axis : Axis) (σ : Equiv.Perm Nat) (k l : Nat) :
    axis.permute σ (axis.position k l) = axis.position (σ k) l := by
  cases axis <;> rfl

/-- Columns and rows are permuted independently of each other. -/
theorem commute_permute (axis : Axis) (σ τ : Equiv.Perm Nat) :
    Commute (axis.permute σ) (axis.cross.permute τ) := by
  cases axis <;> exact Equiv.ext fun _ => rfl

/-- Two cells that are opposite to each other in two lines change places, and no others do. -/
theorem swap_position (axis : Axis) (i j m k l : Nat) :
    Equiv.swap (axis.position i m) (axis.position j m) (axis.position k l) =
      axis.position (if l = m then Equiv.swap i j k else k) l := by
  cases axis <;> simp only [position, Equiv.swap_apply_def, Position.mk.injEq] <;> grind

/-- When this is done across two lines, in whatever order, the lines have changed places. -/
theorem prod_swap_position {order : List Nat} (horder : order.Nodup) (axis : Axis) (i j k l : Nat) :
    (order.map fun m => Equiv.swap (axis.position i m) (axis.position j m)).prod
        (axis.position k l) =
      axis.position (if l ∈ order then Equiv.swap i j k else k) l := by
  induction order with
  | nil => rfl
  | cons m order ih =>
    obtain ⟨hm, horder⟩ := List.nodup_cons.1 horder
    rw [List.map_cons, List.prod_cons, Equiv.Perm.mul_apply, ih horder, swap_position]
    by_cases hl : l = m
    · subst hl
      rw [if_neg hm, if_pos rfl, if_pos List.mem_cons_self]
    · simp only [if_neg hl, List.mem_cons, or_iff_right hl]

end Axis

namespace Grid

variable {g h k : Grid α} {p q : Position} {σ τ : Equiv.Perm Position}

/-! ## Permuted grids -/

/-- `h` has the cells of `g`, permuted. -/
structure Permuted (h g : Grid α) (σ : Equiv.Perm Position) : Prop where
  size : h.size = g.size
  get : ∀ p, h.get p = g.get (σ p)

theorem Permuted.trans (hgh : h.Permuted g σ) (hhk : k.Permuted h τ) : k.Permuted g (σ * τ) :=
  ⟨hhk.size.trans hgh.size, fun p => (hhk.get p).trans (hgh.get (τ p))⟩

theorem Permuted.eq (hh : h.Rectangular) (hk : k.Rectangular) (hgh : h.Permuted g σ)
    (hgk : k.Permuted g σ) : h = k := by
  have hsize : h.size = k.size := hgh.size.trans hgk.size.symm
  exact hh.eq_of_get hk .column (congrArg Position.x hsize) (congrArg Position.y hsize)
    fun x y => (hgh.get _).trans (hgk.get _).symm

/-- Two transpositions of the same two positions or lines undo each other. -/
theorem Permuted.back (hg : g.Rectangular) (hk : k.Rectangular) (hσ : σ * σ = 1)
    (hgh : h.Permuted g σ) (hhk : k.Permuted h σ) : k = g := by
  have htwice := hgh.trans hhk
  rw [hσ] at htwice
  exact htwice.eq hk hg ⟨rfl, fun _ => rfl⟩

theorem Permuted.count (hgh : h.Permuted g σ) (axis : Axis) : h.count axis = g.count axis := by
  cases axis
  · exact congrArg Position.x hgh.size
  · exact congrArg Position.y hgh.size

theorem Permuted.inside_iff (hgh : h.Permuted g σ) :
    p.x < h.columnCount ∧ p.y < h.rowCount ↔ p.x < g.columnCount ∧ p.y < g.rowCount := by
  have hx : h.columnCount = g.columnCount := hgh.count .column
  have hy : h.rowCount = g.rowCount := hgh.count .row
  rw [hx, hy]

theorem Rectangular.permuted_swapCells (hg : g.Rectangular)
    (hp : p.x < g.columnCount ∧ p.y < g.rowCount) (hq : q.x < g.columnCount ∧ q.y < g.rowCount) :
    (g.swapCells p q).Permuted g (Equiv.swap p q) := by
  have hs := hg.hasShape
  refine ⟨(hs.swapCells p q).size_eq, fun r => ?_⟩
  have hput : (g.swapCells p q).get r = if r.x = q.x ∧ r.y = q.y then g.get p
      else if r.x = p.x ∧ r.y = p.y then g.get q else g.get r := by
    rw [Grid.get, Grid.swapCells, (hs.setCell _ _ _).cell_setCell hq.1 hq.2,
      hs.cell_setCell hp.1 hp.2]
    rfl
  have heq : ∀ r s : Position, r.x = s.x ∧ r.y = s.y ↔ r = s := fun ⟨_, _⟩ ⟨_, _⟩ => by simp
  rw [hput, Equiv.swap_apply_def]
  simp only [heq]
  by_cases hrp : r = p
  · rw [if_pos hrp, if_pos hrp]
    split
    · next hrq => rw [← hrp, hrq]
    · rfl
  · rw [if_neg hrp, if_neg hrp]
    split <;> rfl

theorem Rectangular.permuted_swap (hg : g.Rectangular) (hi : i < g.count axis)
    (hj : j < g.count axis) :
    (g.swap axis i j).Permuted g (axis.permute (Equiv.swap i j)) := by
  have hget : ∀ k l, (g.swap axis i j).get (axis.position k l) =
      g.get (axis.permute (Equiv.swap i j) (axis.position k l)) := fun k l => by
    rw [hg.get_swap hi hj, Axis.permute_position, Equiv.swap_apply_def]
    rfl
  cases axis
  · exact ⟨(hg.hasShape.swapColumns i j).size_eq, fun p => hget p.x p.y⟩
  · exact ⟨(hg.hasShape.swapRows i j).size_eq, fun p => hget p.y p.x⟩

/-! ## Swaps -/

theorem Rectangular.swapCells_comm (hg : g.Rectangular)
    (hp : p.x < g.columnCount ∧ p.y < g.rowCount) (hq : q.x < g.columnCount ∧ q.y < g.rowCount) :
    g.swapCells q p = g.swapCells p q := by
  have hback := hg.permuted_swapCells hq hp
  rw [Equiv.swap_comm] at hback
  exact hback.eq (hg.swapCells q p) (hg.swapCells p q) (hg.permuted_swapCells hp hq)

theorem Rectangular.swapCells_swapCells (hg : g.Rectangular)
    (hp : p.x < g.columnCount ∧ p.y < g.rowCount) (hq : q.x < g.columnCount ∧ q.y < g.rowCount) :
    (g.swapCells p q).swapCells p q = g := by
  have hfirst := hg.permuted_swapCells hp hq
  have hr := hg.swapCells p q
  exact hfirst.back hg (hr.swapCells p q) (Equiv.swap_mul_self p q)
    (hr.permuted_swapCells (hfirst.inside_iff.2 hp) (hfirst.inside_iff.2 hq))

theorem Rectangular.swap_comm (hg : g.Rectangular) (hi : i < g.count axis)
    (hj : j < g.count axis) : g.swap axis j i = g.swap axis i j := by
  have hback := hg.permuted_swap hj hi
  rw [Equiv.swap_comm] at hback
  exact hback.eq (hg.swap axis j i) (hg.swap axis i j) (hg.permuted_swap hi hj)

theorem Rectangular.swap_swap (hg : g.Rectangular) (hi : i < g.count axis)
    (hj : j < g.count axis) : (g.swap axis i j).swap axis i j = g := by
  have hr := hg.swap axis i j
  have hcount := hg.count_swap axis axis i j
  have hinv : axis.permute (Equiv.swap i j) * axis.permute (Equiv.swap i j) = 1 := by
    rw [← map_mul, Equiv.swap_mul_self, map_one]
  exact (hg.permuted_swap hi hj).back hg (hr.swap axis i j) hinv
    (hr.permuted_swap (by rwa [hcount]) (by rwa [hcount]))

theorem Rectangular.swap_swap_cross (hg : g.Rectangular) {m n : Nat} (hi : i < g.count axis)
    (hj : j < g.count axis) (hm : m < g.count axis.cross) (hn : n < g.count axis.cross) :
    (g.swap axis i j).swap axis.cross m n = (g.swap axis.cross m n).swap axis i j := by
  have hi' : i < (g.swap axis.cross m n).count axis := by rwa [hg.count_swap]
  have hj' : j < (g.swap axis.cross m n).count axis := by rwa [hg.count_swap]
  have hm' : m < (g.swap axis i j).count axis.cross := by rwa [hg.count_swap]
  have hn' : n < (g.swap axis i j).count axis.cross := by rwa [hg.count_swap]
  have hlines := (hg.permuted_swap hi hj).trans ((hg.swap axis i j).permuted_swap hm' hn')
  have hacross := (hg.permuted_swap hm hn).trans ((hg.swap axis.cross m n).permuted_swap hi' hj')
  rw [← (axis.commute_permute _ _).eq] at hacross
  exact hlines.eq ((hg.swap axis i j).swap axis.cross m n) ((hg.swap axis.cross m n).swap axis i j)
    hacross

/-- To swap two lines is to flip, to swap the two lines across, and to flip back. -/
theorem Rectangular.flip_swap_flip (hg : g.Rectangular) (hi : i < g.count axis)
    (hj : j < g.count axis) : (g.flip.swap axis.cross i j).flip = g.swap axis i j := by
  rw [← hg.flip_swap hi hj, (hg.swap axis i j).flip_flip]

theorem Rectangular.get_of_count_le (hg : g.Rectangular) {k : Nat} (hk : g.count axis ≤ k)
    (l : Nat) : g.get (axis.position k l) = none := by
  rw [← axis.cross_cross] at hk
  rw [← Axis.position_cross]
  exact hg.get_of_count_cross_le hk l

/-- Between two reversals the two lines of the opposite indexes are swapped. -/
theorem Rectangular.reverse_swap_reverse (hg : g.Rectangular) {i' j' : Nat}
    (hi : i + i' + 1 = g.count axis) (hj : j + j' + 1 = g.count axis) :
    ((g.reverse axis).swap axis i' j').reverse axis = g.swap axis i j := by
  have hrev := hg.reverse axis
  have hr := hrev.swap axis i' j'
  have hcount := hg.count_reverse axis
  have hcount' : ∀ other, ((g.reverse axis).swap axis i' j').count other = g.count other :=
    fun other => (hrev.count_swap axis other i' j').trans (hcount other)
  refine (hr.reverse axis).eq_of_get (hg.swap axis i j) axis ?_ ?_ fun k l => ?_
  · rw [hr.count_reverse, hcount', hg.count_swap]
  · rw [hr.count_reverse, hcount', hg.count_swap]
  · by_cases hk : k < g.count axis
    · have hflipped : swapIndex i' j' (g.count axis - 1 - k) < g.count axis := by
        unfold swapIndex
        split_ifs <;> omega
      have hindex : g.count axis - 1 - swapIndex i' j' (g.count axis - 1 - k) =
          swapIndex i j k := by
        unfold swapIndex
        split_ifs <;> omega
      rw [hr.get_reverse (by rwa [hcount']), hcount', hrev.get_swap (by rw [hcount]; omega)
        (by rw [hcount]; omega), hg.get_reverse hflipped, hg.get_swap (by omega) (by omega), hindex]
    · have hk : g.count axis ≤ k := Nat.le_of_not_lt hk
      rw [(hr.reverse axis).get_of_count_le (by rwa [hr.count_reverse, hcount']),
        (hg.swap axis i j).get_of_count_le (by rwa [hg.count_swap])]

/-! ## Trails -/

theorem position_inside (hi : i < g.count axis) (hj : j < g.count axis.cross) :
    (axis.position i j).x < g.columnCount ∧ (axis.position i j).y < g.rowCount := by
  cases axis
  · exact ⟨hi, hj⟩
  · exact ⟨hj, hi⟩

theorem run_swapCells_names {a b : CellAddress} (ha : a.Names p) (hb : b.Names q)
    (hp : p.x < g.columnCount ∧ p.y < g.rowCount) (hq : q.x < g.columnCount ∧ q.y < g.rowCount) :
    (Edit.swapCells a b).run g = (.ok .nothing, ⟨g.swapCells p q, []⟩) := by
  have hfound := findCell_of_names ha hp.1 hp.2
  have hfound' := findCell_of_names hb hq.1 hq.2
  rcases Edit.run_swapCells_cases g a b with ⟨p', q', hp', hq', hrun⟩ | ⟨fault, hfault, -⟩
  · rw [hfound, Except.ok.injEq] at hp'
    rw [hfound', Except.ok.injEq] at hq'
    rw [hrun, hp', hq']
  · rw [hfound, hfound'] at hfault
    rcases hfault with hfault | hfault <;> cases hfault

theorem run_swapLines_of_isIndex {m n : Number} (hm : m.IsIndex i) (hn : n.IsIndex j)
    (hi : i < g.count axis) (hj : j < g.count axis) :
    (Edit.swapLines axis m n).run g = (.ok .nothing, ⟨g.swap axis i j, []⟩) := by
  have hlines : g.findLines axis m n = .ok (i, j) := by
    rw [findLines, lineAt_of_isIndex hm hi, lineAt_of_isIndex hn hj]
    rfl
  rw [Edit.run_swapLines, hlines]
  rfl

/-- The cells of two lines are swapped one by one. -/
theorem Rectangular.trail_swapCells (hg : g.Rectangular) (hi : i < g.count axis)
    (hj : j < g.count axis) {a b : Nat → CellAddress} {order : List Nat}
    (horder : ∀ m ∈ order, m < g.count axis.cross ∧
      (a m).Names (axis.position i m) ∧ (b m).Names (axis.position j m)) :
    ∃ h : Grid α, h.Rectangular ∧
      h.Permuted g (order.map fun m => Equiv.swap (axis.position i m) (axis.position j m)).prod ∧
      g.Trail (order.map fun m => (.swapCells (a m) (b m), .nothing)) [] h := by
  induction order generalizing g with
  | nil => exact ⟨g, hg, ⟨rfl, fun _ => rfl⟩, .done g⟩
  | cons m order ih =>
    obtain ⟨⟨hm, ha, hb⟩, horder⟩ := List.forall_mem_cons.1 horder
    have hp := position_inside hi hm
    have hq := position_inside hj hm
    have hfirst := hg.permuted_swapCells hp hq
    have hcount := hfirst.count axis
    obtain ⟨h, hh, hrest, htrail⟩ := ih (hg.swapCells _ _) (by rwa [hcount]) (by rwa [hcount])
      fun m hm => by rw [hfirst.count]; exact horder m hm
    exact ⟨h, hh, hfirst.trans hrest, .quiet (run_swapCells_names ha hb hp hq) htrail⟩

/-- When all cells of two lines are swapped, in any order, so are the lines. -/
theorem Rectangular.trail_swapCells_all (hg : g.Rectangular) (hi : i < g.count axis)
    (hj : j < g.count axis) {a b : Nat → CellAddress} {order : List Nat}
    (hall : order.Perm (List.range (g.count axis.cross)))
    (hnames : ∀ m ∈ order, (a m).Names (axis.position i m) ∧ (b m).Names (axis.position j m)) :
    g.Trail (order.map fun m => (.swapCells (a m) (b m), .nothing)) [] (g.swap axis i j) := by
  have hmem : ∀ m, m ∈ order ↔ m < g.count axis.cross := fun m =>
    hall.mem_iff.trans List.mem_range
  obtain ⟨h, hh, hperm, htrail⟩ := hg.trail_swapCells hi hj fun m hm =>
    ⟨(hmem m).1 hm, hnames m hm⟩
  have hlines := hg.permuted_swap hi hj
  have heq : h = g.swap axis i j := by
    refine hh.eq_of_get (hg.swap axis i j) axis ?_ ?_ fun k l => ?_
    · rw [hperm.count, hlines.count]
    · rw [hperm.count, hlines.count]
    · by_cases hl : l < g.count axis.cross
      · rw [hperm.get, hlines.get, Axis.prod_swap_position (hall.nodup_iff.2 List.nodup_range),
          if_pos ((hmem l).2 hl), Axis.permute_position]
      · have hl : g.count axis.cross ≤ l := Nat.le_of_not_lt hl
        rw [hh.get_of_count_cross_le (by rwa [hperm.count]),
          (hg.swap axis i j).get_of_count_cross_le (by rwa [hlines.count])]
  exact heq ▸ htrail

theorem Rectangular.trail_flip_swap_flip (hg : g.Rectangular) {m n : Number} (hm : m.IsIndex i)
    (hn : n.IsIndex j) (hi : i < g.count axis) (hj : j < g.count axis) :
    ∃ events, g.Trail [(.flip, .nothing), (.swapLines axis.cross m n, .nothing),
      (.flip, .nothing)] events (g.swap axis i j) := by
  have hcount := hg.count_flip axis
  have hlast := Edit.run_flip (g.flip.swap axis.cross i j)
  rw [hg.flip_swap_flip hi hj] at hlast
  exact ⟨_, .step (Edit.run_flip g) (.quiet (run_swapLines_of_isIndex hm hn
    (by rwa [hcount]) (by rwa [hcount])) (.last hlast))⟩

theorem Rectangular.trail_reverse_swap_reverse (hg : g.Rectangular) {m n : Number} {i' j' : Nat}
    (hm : m.IsIndex i') (hn : n.IsIndex j') (hi : i + i' + 1 = g.count axis)
    (hj : j + j' + 1 = g.count axis) :
    g.Trail [(.reverse axis, .nothing), (.swapLines axis m n, .nothing),
      (.reverse axis, .nothing)] [] (g.swap axis i j) := by
  have hcount := hg.count_reverse axis axis
  have hlast := Edit.run_reverse ((g.reverse axis).swap axis i' j') axis
  rw [hg.reverse_swap_reverse hi hj] at hlast
  exact .quiet (Edit.run_reverse g axis)
    (.quiet (run_swapLines_of_isIndex hm hn (by omega) (by omega)) (.last hlast))

/-- After a swap along one axis, lines across can be swapped as before. -/
theorem Rectangular.trail_swap_cross (hg : g.Rectangular) {m n m' n' : Number} {i' j' : Nat}
    (hm : m.IsIndex i) (hn : n.IsIndex j) (hm' : m'.IsIndex i') (hn' : n'.IsIndex j')
    (hi : i < g.count axis) (hj : j < g.count axis) (hi' : i' < g.count axis.cross)
    (hj' : j' < g.count axis.cross) :
    g.Trail [(.swapLines axis m n, .nothing), (.swapLines axis.cross m' n', .nothing)] []
      ((g.swap axis i j).swap axis.cross i' j') :=
  .quiet (run_swapLines_of_isIndex hm hn hi hj) (.last (run_swapLines_of_isIndex hm' hn'
    (by rwa [hg.count_swap]) (by rwa [hg.count_swap])))

/-- **Swaps are transpositions.** A swap exchanges two cells or two lines, is the same from both
sides, and undoes itself. To swap two lines is to swap their cells, one after the other in any
order; it is to swap the lines across in the flipped grid, and the lines of the opposite indexes in
the reversed one. Rows and columns are swapped in either order. -/
theorem Reachable.swaps_are_transpositions (hg : g.Reachable) :
    (∀ (a b : CellAddress) (p q : Position), a.Names p → b.Names q →
      p.x < g.columnCount ∧ p.y < g.rowCount → q.x < g.columnCount ∧ q.y < g.rowCount →
      ∃ h : Grid α, h.Permuted g (Equiv.swap p q) ∧
        g.Trail [(.swapCells a b, .nothing)] [] h ∧ g.Trail [(.swapCells b a, .nothing)] [] h ∧
        h.Trail [(.swapCells a b, .nothing)] [] g) ∧
    (∀ (axis : Axis) (m n : Number) (i j : Nat), m.IsIndex i → n.IsIndex j →
      i < g.count axis → j < g.count axis →
      ∃ h : Grid α, h.Permuted g (axis.permute (Equiv.swap i j)) ∧
        g.Trail [(.swapLines axis m n, .nothing)] [] h ∧
        g.Trail [(.swapLines axis n m, .nothing)] [] h ∧
        h.Trail [(.swapLines axis m n, .nothing)] [] g ∧
        (∀ (a b : Nat → CellAddress) (order : List Nat),
          order.Perm (List.range (g.count axis.cross)) →
          (∀ k ∈ order, (a k).Names (axis.position i k) ∧ (b k).Names (axis.position j k)) →
            g.Trail (order.map fun k => (.swapCells (a k) (b k), .nothing)) [] h) ∧
        (∃ events, g.Trail
          [(.flip, .nothing), (.swapLines axis.cross m n, .nothing), (.flip, .nothing)] events h) ∧
        ∀ (m' n' : Number) (i' j' : Nat), m'.IsIndex i' → n'.IsIndex j' →
          i + i' + 1 = g.count axis → j + j' + 1 = g.count axis →
            g.Trail [(.reverse axis, .nothing), (.swapLines axis m' n', .nothing),
              (.reverse axis, .nothing)] [] h) ∧
    ∀ (axis : Axis) (m n m' n' : Number) (i j i' j' : Nat), m.IsIndex i → n.IsIndex j →
      m'.IsIndex i' → n'.IsIndex j' → i < g.count axis → j < g.count axis →
      i' < g.count axis.cross → j' < g.count axis.cross →
      ∃ h : Grid α,
        g.Trail [(.swapLines axis m n, .nothing),
          (.swapLines axis.cross m' n', .nothing)] [] h ∧
        g.Trail [(.swapLines axis.cross m' n', .nothing),
          (.swapLines axis m n, .nothing)] [] h := by
  have hr := hg.rectangular
  refine ⟨fun a b p q ha hb hp hq => ?_, fun axis m n i j hm hn hi hj => ?_,
    fun axis m n m' n' i j i' j' hm hn hm' hn' hi hj hi' hj' => ?_⟩
  · have hperm := hr.permuted_swapCells hp hq
    have hback := run_swapCells_names ha hb (hperm.inside_iff.2 hp) (hperm.inside_iff.2 hq)
    have hother := run_swapCells_names hb ha hq hp
    rw [hr.swapCells_swapCells hp hq] at hback
    rw [hr.swapCells_comm hp hq] at hother
    exact ⟨_, hperm, .last (run_swapCells_names ha hb hp hq), .last hother, .last hback⟩
  · have hcount := hr.count_swap axis axis i j
    have hback := run_swapLines_of_isIndex hm hn (by rwa [hcount]) (by rwa [hcount])
    have hother := run_swapLines_of_isIndex hn hm hj hi
    rw [hr.swap_swap hi hj] at hback
    rw [hr.swap_comm hi hj] at hother
    exact ⟨_, hr.permuted_swap hi hj, .last (run_swapLines_of_isIndex hm hn hi hj), .last hother,
      .last hback, fun a b order hall hnames => hr.trail_swapCells_all hi hj hall hnames,
      hr.trail_flip_swap_flip hm hn hi hj,
      fun m' n' i' j' hm' hn' hi' hj' => hr.trail_reverse_swap_reverse hm' hn' hi' hj'⟩
  · have htrail := hr.trail_swap_cross hm hn hm' hn' hi hj hi' hj'
    rw [hr.swap_swap_cross hi hj hi' hj'] at htrail
    rw [← axis.cross_cross] at hi hj
    have htrail' := hr.trail_swap_cross hm' hn' hm hn hi' hj' hi hj
    rw [Axis.cross_cross] at htrail'
    exact ⟨_, htrail, htrail'⟩

/-- Two rows change places: at once, cell by cell from the right, as columns of the flipped grid,
and as each other between two reversals. A cell that is swapped with itself stays. -/
theorem two_rows_swapped :
    let g := (Source.ofLines .row
      [[some (Value.whole 1), some (.whole 2)], [some (.whole 3), none]]).run.2.grid
    let zero := Number.negativeZero
    let one := Number.ofNat 1
    let corner := CellAddress.position zero zero
    let upper := fun k => CellAddress.indexes (.ofNat k) zero
    let lower := fun k => CellAddress.position (.ofNat k) one
    g.Reachable ∧ zero.IsIndex 0 ∧ one.IsIndex 1 ∧ 1 < g.count .row ∧ 1 < g.count .column ∧
      corner.Names ⟨0, 0⟩ ∧
      (∀ k ∈ [1, 0], (upper k).Names (Axis.row.position 0 k) ∧
        (lower k).Names (Axis.row.position 1 k)) ∧
      [1, 0].Perm (List.range (g.count .column)) ∧ 0 + 1 + 1 = g.count .row ∧
      (∃ h : Grid Value, h.Permuted g (Equiv.swap ⟨0, 0⟩ ⟨0, 0⟩) ∧
        g.Trail [(.swapCells corner corner, .nothing)] [] h) ∧
      (∃ h : Grid Value,
        h.columns = [[some (.whole 3), some (.whole 1)], [none, some (.whole 2)]] ∧
        h.Permuted g (Axis.row.permute (Equiv.swap 0 1)) ∧
        g.Trail [(.swapLines .row zero one, .nothing)] [] h ∧
        h.Trail [(.swapLines .row zero one, .nothing)] [] g ∧
        g.Trail [(.swapCells (upper 1) (lower 1), .nothing),
          (.swapCells (upper 0) (lower 0), .nothing)] [] h ∧
        (∃ events, g.Trail [(.flip, .nothing), (.swapLines .column zero one, .nothing),
          (.flip, .nothing)] events h) ∧
        g.Trail [(.reverse .row, .nothing), (.swapLines .row one zero, .nothing),
          (.reverse .row, .nothing)] [] h) ∧
      ∃ h : Grid Value,
        g.Trail [(.swapLines .row zero one, .nothing),
          (.swapLines .column one one, .nothing)] [] h ∧
        g.Trail [(.swapLines .column one one, .nothing),
          (.swapLines .row zero one, .nothing)] [] h := by
  intro g zero one corner upper lower
  have hg : g.Reachable := .built rfl
  have hzero : zero.IsIndex 0 := Number.toIndex?_eq_some_iff.1 (by decide)
  have hone : one.IsIndex 1 := Number.isIndex_ofNat (by decide)
  have hrow : 1 < g.count .row := by decide
  have hcolumn : 1 < g.count .column := by decide
  have hcorner : corner.Names ⟨0, 0⟩ := ⟨hzero, hzero⟩
  have hnames : ∀ k ∈ [1, 0], (upper k).Names (Axis.row.position 0 k) ∧
      (lower k).Names (Axis.row.position 1 k) := fun k hk => by
    have hk : k < 2 ^ 53 := by grind
    exact ⟨⟨Number.isIndex_ofNat hk, hzero⟩, Number.isIndex_ofNat hk, hone⟩
  have hall : [1, 0].Perm (List.range (g.count .column)) := by decide +kernel
  have hlast : 0 + 1 + 1 = g.count .row := by decide +kernel
  obtain ⟨hcells, hlines, hcommute⟩ := hg.swaps_are_transpositions
  have hinside : 0 < g.columnCount ∧ 0 < g.rowCount := by decide
  obtain ⟨h, hperm, htrail, -⟩ := hcells corner corner ⟨0, 0⟩ ⟨0, 0⟩ hcorner hcorner hinside hinside
  obtain ⟨k, hrows, hswap, -, hback, hcross, hflip, hreverse⟩ :=
    hlines .row zero one 0 1 hzero hone (by decide) hrow
  have hcolumns : k.columns = [[some (.whole 3), some (.whole 1)], [none, some (.whole 2)]] := by
    rw [← hswap.after_eq]
    decide +kernel
  exact ⟨hg, hzero, hone, hrow, hcolumn, hcorner, hnames, hall, hlast, ⟨h, hperm, htrail⟩,
    ⟨k, hcolumns, hrows, hswap, hback, hcross upper lower [1, 0] hall hnames, hflip,
      hreverse one zero 1 0 hone hzero hlast hlast⟩,
    hcommute .row zero one one one 0 1 1 1 hzero hone hone hone (by decide) hrow hcolumn hcolumn⟩

end Grid

end ElasticGrid
