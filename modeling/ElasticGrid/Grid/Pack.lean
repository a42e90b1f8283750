import ElasticGrid.Grid.Basic
import ElasticGrid.Trailing

/-!
# Packing

Packing takes away the lines at the far end that hold no value. A grid without any
value becomes empty, whichever axis it is packed along.
-/

namespace ElasticGrid.Grid

variable {α : Type}

def isBlankLine (line : List (Option α)) : Bool := line.all Option.isNone

/-- The number of lines along an axis up to the last one that holds a value. -/
def packedCount (g : Grid α) (axis : Axis) : Nat :=
  (dropTrailing isBlankLine (g.lines axis)).length

def packRows (g : Grid α) : Grid α :=
  let kept := g.packedCount .row
  if kept = 0 then empty else ⟨g.columns.map fun column => column.take kept⟩

def packColumns (g : Grid α) : Grid α := ⟨g.columns.take (g.packedCount .column)⟩

def pack : Axis → Grid α → Grid α
  | .column => packColumns
  | .row => packRows

theorem packedCount_le_count (g : Grid α) (axis : Axis) : g.packedCount axis ≤ g.count axis := by
  refine Nat.le_trans (length_dropTrailing_le _ _) ?_
  cases axis <;> simp [lines, count, columnCount]

end ElasticGrid.Grid
