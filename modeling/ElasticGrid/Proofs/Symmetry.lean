import ElasticGrid.Proofs.Conservation
import Mathlib.Dynamics.PeriodicPts.Defs
import Mathlib.GroupTheory.SpecificGroups.Dihedral

/-!
# The symmetries of a grid

Flips, reversals and turns move every cell to another place and do nothing else. They act
on grids as the symmetries of a square do: `act s g` is the grid `g` as it looks after the
symmetry `s`, a number of quarter turns with or without a flip before them. One turn after
the other is a turn (`act_mul`), so a word of transforms does what the product of its
letters does, and words with equal products make equal grids.

Products are read from left to right: what stands first is done first.
-/

namespace ElasticGrid

variable {α : Type} {g h : Grid α} {m n : Nat}

inductive Transform where
  | flip
  | reverse (axis : Axis)
  | turn (clockwise : Bool)
  deriving DecidableEq, Repr

namespace Transform

def edit : Transform → Edit α
  | flip => .flip
  | reverse axis => .reverse axis
  | turn clockwise => .turn clockwise

/-- The symmetry of the square that a transform is, with `r 1` for a quarter turn clockwise
and `sr 0` for a flip. -/
def symmetry : Transform → DihedralGroup 4
  | flip => .sr 0
  | reverse .column => .sr 1
  | reverse .row => .sr 3
  | turn true => .r 1
  | turn false => .r 3

/-- The symmetry that a word of transforms denotes. -/
def denote (word : List Transform) : DihedralGroup 4 := (word.map symmetry).prod

def apply (word : List Transform) (g : Grid α) : Grid α := g.after (word.map edit)

theorem run_edit (t : Transform) (g : Grid α) : (t.edit.run g).1 = .ok .nothing := by
  cases t with
  | flip => rw [edit, Edit.run_flip]
  | reverse axis => rfl
  | turn clockwise => rw [edit, Edit.run_turn]

theorem apply_flip (g : Grid α) : apply [flip] g = g.flip := by
  show (Edit.flip.run g).2.grid = g.flip
  rw [Edit.run_flip]

theorem apply_reverse (axis : Axis) (g : Grid α) : apply [reverse axis] g = g.reverse axis := rfl

theorem apply_turn (clockwise : Bool) (g : Grid α) :
    apply [turn clockwise] g = if clockwise then g.turnClockwise else g.turnCounterClockwise := by
  show ((Edit.turn clockwise).run g).2.grid = _
  rw [Edit.run_turn]
  cases clockwise <;> rfl

end Transform

namespace Grid

section
variable {c r : Nat}

/-- The grid has the given counts, and each of its cells is the cell of `g` at a source. -/
structure Rearranges (h g : Grid α) (columns rows : Nat) (source : Nat → Nat → Position) :
    Prop where
  size : h.size = ⟨columns, rows⟩
  cell : ∀ x < columns, ∀ y < rows, h.cell x y = g.cell (source x y).x (source x y).y

theorem HasShape.rearranges_flip (hg : g.HasShape c r) :
    g.flip.Rearranges g r c fun x y => ⟨y, x⟩ :=
  ⟨hg.flip.size_eq, fun x _ y _ => hg.cell_flip x y⟩

theorem HasShape.rearranges_reverseX (hg : g.HasShape c r) :
    g.reverseX.Rearranges g c r fun x y => ⟨c - 1 - x, y⟩ :=
  ⟨hg.reverseX.size_eq, fun _ hx y _ => hg.cell_reverseX hx y⟩

theorem HasShape.rearranges_reverseY (hg : g.HasShape c r) :
    g.reverseY.Rearranges g c r fun x y => ⟨x, r - 1 - y⟩ :=
  ⟨hg.reverseY.size_eq, fun x _ _ hy => hg.cell_reverseY x hy⟩

theorem HasShape.rearranges_turnClockwise (hg : g.HasShape c r) :
    g.turnClockwise.Rearranges g r c fun x y => ⟨y, r - 1 - x⟩ := by
  refine ⟨hg.flip.reverseX.size_eq, fun x hx y _ => ?_⟩
  rw [turnClockwise, hg.flip.cell_reverseX hx, hg.cell_flip]

theorem HasShape.rearranges_turnCounterClockwise (hg : g.HasShape c r) :
    g.turnCounterClockwise.Rearranges g r c fun x y => ⟨c - 1 - y, x⟩ := by
  refine ⟨hg.flip.reverseY.size_eq, fun x _ y hy => ?_⟩
  rw [turnCounterClockwise, hg.flip.cell_reverseY x hy, hg.cell_flip]

end

theorem Rectangular.turnClockwise (hg : g.Rectangular) : g.turnClockwise.Rectangular :=
  hg.flip.reverse .column

theorem Rectangular.iterate_turnClockwise (hg : g.Rectangular) (n : Nat) :
    (Grid.turnClockwise^[n] g).Rectangular := by
  induction n with
  | zero => exact hg
  | succ n ih => rw [Function.iterate_succ_apply']; exact ih.turnClockwise

theorem reverseX_reverseY (g : Grid α) : g.reverseY.reverseX = g.reverseX.reverseY := by
  rw [reverseX, reverseY, reverseX, reverseY, List.map_reverse]

/-- Two quarter turns reverse both axes. -/
theorem Rectangular.turn_turn (hg : g.Rectangular) :
    g.turnClockwise.turnClockwise = g.reverseX.reverseY := by
  have hflip : g.flip.reverseX.flip = g.flip.flip.reverseY := hg.flip.flip_reverse .column
  rw [Grid.turnClockwise, Grid.turnClockwise, hflip, hg.flip_flip, reverseX_reverseY]

theorem Rectangular.isPeriodicPt_turn (hg : g.Rectangular) :
    Function.IsPeriodicPt Grid.turnClockwise 4 g := by
  show g.turnClockwise.turnClockwise.turnClockwise.turnClockwise = g
  rw [hg.turnClockwise.turnClockwise.turn_turn, hg.turn_turn, ← reverseX_reverseY,
    reverseY_reverseY, reverseX_reverseX]

/-- Four quarter turns are none. -/
theorem Rectangular.iterate_turn_congr (hg : g.Rectangular) (hmod : m % 4 = n % 4) :
    Grid.turnClockwise^[m] g = Grid.turnClockwise^[n] g := by
  rw [← hg.isPeriodicPt_turn.iterate_mod_apply m, hmod, hg.isPeriodicPt_turn.iterate_mod_apply n]

/-- A turn the other way is three turns. -/
theorem Rectangular.turn_turn_turn (hg : g.Rectangular) :
    Grid.turnClockwise^[3] g = g.turnCounterClockwise := by
  show g.turnClockwise.turnClockwise.turnClockwise = g.flip.reverseY
  rw [hg.turnClockwise.turn_turn, Grid.turnClockwise, reverseX_reverseX]

/-- A flip turns the way round. -/
theorem Rectangular.flip_turnClockwise (hg : g.Rectangular) :
    g.turnClockwise.flip = Grid.turnClockwise^[3] g.flip := by
  have hflip : g.flip.reverseX.flip = g.flip.flip.reverseY := hg.flip.flip_reverse .column
  rw [hg.flip.turn_turn_turn, Grid.turnClockwise, hflip, turnCounterClockwise]

theorem Rectangular.flip_iterate_turn (hg : g.Rectangular) (n : Nat) :
    (Grid.turnClockwise^[n] g).flip = Grid.turnClockwise^[3 * n] g.flip := by
  induction n with
  | zero => rfl
  | succ n ih =>
    rw [Function.iterate_succ_apply', (hg.iterate_turnClockwise n).flip_turnClockwise, ih,
      ← Function.iterate_add_apply, show 3 + 3 * n = 3 * (n + 1) by omega]

/-! ## The action of the symmetries -/

/-- The grid as it looks after a symmetry: the flip, if there is one, comes before the turns. -/
def act : DihedralGroup 4 → Grid α → Grid α
  | .r i, g => turnClockwise^[i.val] g
  | .sr i, g => turnClockwise^[i.val] g.flip

theorem Rectangular.act (hg : g.Rectangular) (s : DihedralGroup 4) : (g.act s).Rectangular := by
  cases s with
  | r i => exact hg.iterate_turnClockwise i.val
  | sr i => exact hg.flip.iterate_turnClockwise i.val

/-- What a product does is what its factors do, one after the other. -/
theorem Rectangular.act_mul (hg : g.Rectangular) (s t : DihedralGroup 4) :
    g.act (s * t) = (g.act s).act t := by
  have hadd : ∀ i j : ZMod 4, (i + j).val % 4 = (j.val + i.val) % 4 := by decide
  have hsub : ∀ i j : ZMod 4, (j - i).val % 4 = (j.val + 3 * i.val) % 4 := by decide
  cases s with
  | r i =>
    cases t with
    | r j =>
      rw [DihedralGroup.r_mul_r, Grid.act, Grid.act, Grid.act, ← Function.iterate_add_apply]
      exact hg.iterate_turn_congr (hadd i j)
    | sr j =>
      rw [DihedralGroup.r_mul_sr, Grid.act, Grid.act, Grid.act, hg.flip_iterate_turn,
        ← Function.iterate_add_apply]
      exact hg.flip.iterate_turn_congr (hsub i j)
  | sr i =>
    cases t with
    | r j =>
      rw [DihedralGroup.sr_mul_r, Grid.act, Grid.act, Grid.act, ← Function.iterate_add_apply]
      exact hg.flip.iterate_turn_congr (hadd i j)
    | sr j =>
      rw [DihedralGroup.sr_mul_sr, Grid.act, Grid.act, Grid.act, hg.flip.flip_iterate_turn, hg.flip_flip,
        ← Function.iterate_add_apply]
      exact hg.iterate_turn_congr (hsub i j)

theorem Rectangular.apply_singleton (hg : g.Rectangular) (t : Transform) :
    Transform.apply [t] g = g.act t.symmetry := by
  cases t with
  | flip => rw [Transform.apply_flip]; rfl
  | reverse axis =>
    cases axis
    · show g.reverseX = g.flip.turnClockwise
      rw [Grid.turnClockwise, hg.flip_flip]
    · show g.reverseY = Grid.turnClockwise^[3] g.flip
      rw [hg.flip.turn_turn_turn, turnCounterClockwise, hg.flip_flip]
  | turn clockwise =>
    rw [Transform.apply_turn]
    cases clockwise
    · exact hg.turn_turn_turn.symm
    · rfl

theorem Rectangular.apply_eq_act (hg : g.Rectangular) (word : List Transform) :
    Transform.apply word g = g.act (Transform.denote word) := by
  induction word generalizing g with
  | nil => rfl
  | cons t word ih =>
    calc Transform.apply (t :: word) g
        = Transform.apply word (Transform.apply [t] g) := rfl
      _ = Transform.apply word (g.act t.symmetry) := by rw [hg.apply_singleton]
      _ = (g.act t.symmetry).act (Transform.denote word) := ih (hg.act t.symmetry)
      _ = g.act (Transform.denote (t :: word)) := (hg.act_mul _ _).symm

/-- Only the symmetry that a word denotes matters. -/
theorem Rectangular.apply_congr (hg : g.Rectangular) {word word' : List Transform}
    (heq : Transform.denote word = Transform.denote word') :
    Transform.apply word g = Transform.apply word' g := by
  rw [hg.apply_eq_act, hg.apply_eq_act, heq]

/-- A word that denotes no change makes none. -/
theorem Rectangular.apply_of_denote_eq_one (hg : g.Rectangular) {word : List Transform}
    (hone : Transform.denote word = 1) : Transform.apply word g = g := by
  rw [hg.apply_eq_act, hone]; rfl

/-- Two columns of three cells with a single value, in the corner. -/
def corner (a : α) : Grid α := ⟨[[some a, none, none], [none, none, none]]⟩

theorem reachable_corner (a : α) : (corner a).Reachable :=
  @Reachable.built _ (.ofLines .column (corner a).columns) rfl

def heading (g : Grid α) : DihedralGroup 4 :=
  match g.columns.map (List.map Option.isSome) with
  | [[true, false, false], [false, false, false]] => .r 0
  | [[false, false], [false, false], [true, false]] => .r 1
  | [[false, false, false], [false, false, true]] => .r 2
  | [[false, true], [false, false], [false, false]] => .r 3
  | [[true, false], [false, false], [false, false]] => .sr 0
  | [[false, false, false], [true, false, false]] => .sr 1
  | [[false, false], [false, false], [false, true]] => .sr 2
  | _ => .sr 3

/-- No two symmetries bring the corner to the same place. -/
theorem heading_act_corner (a : α) (s : DihedralGroup 4) : ((corner a).act s).heading = s := by
  cases s with
  | r i => fin_cases i <;> rfl
  | sr i => fin_cases i <;> rfl

/-! ## Words of transforms -/

/-- **The transforms are the symmetries of a square.** On a reachable grid each of them moves
the cells where it should, and two words that denote the same symmetry make the same grid.
They denote no more than that takes: words that make the same of every grid denote the same
symmetry. -/
theorem transforms_are_symmetries :
    (∀ g : Grid α, g.Reachable →
      (∀ t : Transform, (t.edit.run g).1 = .ok .nothing) ∧
      (Transform.apply [.flip] g).Rearranges g g.rowCount g.columnCount (fun x y => ⟨y, x⟩) ∧
      (Transform.apply [.turn true] g).Rearranges g g.rowCount g.columnCount
        (fun x y => ⟨y, g.rowCount - 1 - x⟩) ∧
      (Transform.apply [.turn false] g).Rearranges g g.rowCount g.columnCount
        (fun x y => ⟨g.columnCount - 1 - y, x⟩) ∧
      (Transform.apply [.reverse .column] g).Rearranges g g.columnCount g.rowCount
        (fun x y => ⟨g.columnCount - 1 - x, y⟩) ∧
      (Transform.apply [.reverse .row] g).Rearranges g g.columnCount g.rowCount
        (fun x y => ⟨x, g.rowCount - 1 - y⟩) ∧
      (∀ word word' : List Transform, Transform.denote word = Transform.denote word' →
        Transform.apply word g = Transform.apply word' g) ∧
      (∀ axis, Transform.apply [.flip, .flip] g = g ∧
        Transform.apply [.reverse axis, .reverse axis] g = g) ∧
      ∀ clockwise, Transform.apply [.turn clockwise, .turn !clockwise] g = g ∧
        Transform.apply (List.replicate 4 (.turn clockwise)) g = g) ∧
    (Nonempty α → ∃ g : Grid α, g.Reachable ∧ ∀ word word' : List Transform,
      Transform.apply word g = Transform.apply word' g →
        Transform.denote word = Transform.denote word') := by
  refine ⟨fun g hg => ?_, fun ⟨a⟩ => ⟨corner a, reachable_corner a, fun word word' heq => ?_⟩⟩
  · have hr := hg.rectangular
    have hs := hr.hasShape
    refine ⟨fun t => t.run_edit g, ?_, ?_, ?_, ?_, ?_, fun word word' heq => hr.apply_congr heq,
      fun axis => ⟨?_, ?_⟩, fun clockwise => ⟨?_, ?_⟩⟩
    · rw [Transform.apply_flip]; exact hs.rearranges_flip
    · rw [Transform.apply_turn]; exact hs.rearranges_turnClockwise
    · rw [Transform.apply_turn]; exact hs.rearranges_turnCounterClockwise
    · rw [Transform.apply_reverse]; exact hs.rearranges_reverseX
    · rw [Transform.apply_reverse]; exact hs.rearranges_reverseY
    · exact hr.apply_of_denote_eq_one (by decide)
    · exact hr.apply_of_denote_eq_one (by cases axis <;> decide)
    · exact hr.apply_of_denote_eq_one (by cases clockwise <;> decide)
    · exact hr.apply_of_denote_eq_one (by cases clockwise <;> decide)
  · have hr := (reachable_corner a).rectangular
    rw [hr.apply_eq_act, hr.apply_eq_act] at heq
    rw [← heading_act_corner a (Transform.denote word), heq, heading_act_corner]

/-- Two quarter turns of a grid with two columns of three cells. -/
theorem half_turn_of_corner :
    let g : Grid Value := corner (.whole 1)
    let word : List Transform := [.turn true, .turn true]
    let word' : List Transform := [.reverse .row, .reverse .column]
    g.Reachable ∧ Transform.denote word = Transform.denote word' ∧
      Transform.apply word g = Transform.apply word' g ∧
      Transform.apply word g = ⟨[[none, none, none], [none, none, some (.whole 1)]]⟩ := by
  intro g word word'
  have hg : g.Reachable := reachable_corner _
  have heq : Transform.denote word = Transform.denote word' := by decide
  exact ⟨hg, heq, (transforms_are_symmetries.1 g hg).2.2.2.2.2.2.1 word word' heq, rfl⟩

end Grid

end ElasticGrid
