import ElasticGrid.Grid.Basic

/-!
# Swaps, reversals, flips and turns

A flip exchanges rows and columns. A turn is a flip and a reversal of one axis.
-/

namespace ElasticGrid

variable {α : Type}

/-- The list with the elements at two indexes exchanged. -/
def swapAt (i j : Nat) (l : List α) : List α :=
  match l[i]?, l[j]? with
  | some a, some b => (l.set i b).set j a
  | _, _ => l

@[simp] theorem length_swapAt (i j : Nat) (l : List α) : (swapAt i j l).length = l.length := by
  unfold swapAt; split <;> simp

namespace Grid

def swapCells (a b : Position) (g : Grid α) : Grid α :=
  (g.setCell a.x a.y (g.cell b.x b.y)).setCell b.x b.y (g.cell a.x a.y)

def swapRows (y1 y2 : Nat) (g : Grid α) : Grid α := ⟨g.columns.map (swapAt y1 y2)⟩

def swapColumns (x1 x2 : Nat) (g : Grid α) : Grid α := ⟨swapAt x1 x2 g.columns⟩

def swap : Axis → Nat → Nat → Grid α → Grid α
  | .column => swapColumns
  | .row => swapRows

/-- The columns in reverse order. -/
def reverseX (g : Grid α) : Grid α := ⟨g.columns.reverse⟩

/-- The rows in reverse order. -/
def reverseY (g : Grid α) : Grid α := ⟨g.columns.map List.reverse⟩

def reverse : Axis → Grid α → Grid α
  | .column => reverseX
  | .row => reverseY

/-- Rows become columns. -/
def flip (g : Grid α) : Grid α := ⟨g.rows⟩

def turnClockwise (g : Grid α) : Grid α := g.flip.reverseX

def turnCounterClockwise (g : Grid α) : Grid α := g.flip.reverseY

/-- The cells of a flipped grid; beyond the rows of the grid there are none. -/
theorem cell_flip (g : Grid α) {x : Nat} (y : Nat) (h : x < g.rowCount) :
    g.flip.cell x y = g.cell y x := by
  have hrow : g.rows.getD x [] = g.row x := by
    simp [rows_eq_map_row, List.getD_eq_getElem?_getD, h]
  show (g.rows.getD x []).getD y none = g.cell y x
  rw [hrow, getD_row]

@[simp] theorem columnCount_flip (g : Grid α) : g.flip.columnCount = g.rowCount := by
  simp [flip, columnCount]

@[simp] theorem reverseX_reverseX (g : Grid α) : g.reverseX.reverseX = g := by
  simp [reverseX]

@[simp] theorem reverseY_reverseY (g : Grid α) : g.reverseY.reverseY = g := by
  have twice : (List.reverse ∘ List.reverse : List (Option α) → List (Option α)) = id :=
    funext List.reverse_reverse
  rw [reverseY, reverseY, List.map_map, twice, List.map_id]

end Grid

end ElasticGrid
