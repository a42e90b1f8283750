import ElasticGrid.Proofs.Replacement

/-!
# Views of a grid

The cells of a grid can be asked for one by one, line by line along either axis, all at once or
with their positions, and the positions can be gone through by themselves. All this shows one and
the same grid (`ViewsAgree`). Only the columns are there to be looked at, though: the rows are read
across them, as many as the first column has cells. That nothing of another column is left out is
due to the shape of the grid.
-/

namespace ElasticGrid

variable {α : Type}

namespace Grid

variable {g : Grid α} {axis : Axis} {i j : Nat} {p : Position} {value : Option α}

theorem Rectangular.positions_entries (hg : g.Rectangular) :
    g.entries.map (·.1) = g.region.toList := by
  rw [hg.hasShape.entries_eq, List.map_map]
  exact List.map_id _

end Grid

end ElasticGrid
