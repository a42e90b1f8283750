import ElasticGrid.Crosscut
import ElasticGrid.Place.Region

/-!
# Grids

A grid holds its columns from left to right, a column its cells from top to bottom;
a cell is a value or absent. A grid is `Rectangular` when its columns are equally
long and no column is empty, so that it is either empty or has at least one row and
one column. The views (`cell`, `row`, `rows`, `values`, `entries`) read a grid; none
of them depends on the way it was built.
-/

namespace ElasticGrid

structure Grid (α : Type) where
  columns : List (List (Option α))
  deriving DecidableEq, Repr

namespace Grid

variable {α β : Type}

def empty : Grid α := ⟨[]⟩

/-- A grid of absent cells. -/
def blank (columns rows : Nat) : Grid α := ⟨List.replicate columns (List.replicate rows none)⟩

def columnCount (g : Grid α) : Nat := g.columns.length

def rowCount (g : Grid α) : Nat := (g.columns.headD []).length

def count (g : Grid α) : Axis → Nat
  | .column => g.columnCount
  | .row => g.rowCount

def isEmpty (g : Grid α) : Bool := g.columns.isEmpty

def size (g : Grid α) : Position := ⟨g.columnCount, g.rowCount⟩

def Rectangular (g : Grid α) : Prop :=
  ∀ column ∈ g.columns, column.length = g.rowCount ∧ 0 < column.length

/-- The grid with another cell in column `x` and row `y`. -/
def setCell (x y : Nat) (value : Option α) (g : Grid α) : Grid α :=
  ⟨g.columns.modify x fun column => column.set y value⟩

/-! ### Views -/

/-- The cell of column `x` and row `y`; outside of the grid every cell is absent. -/
def cell (g : Grid α) (x y : Nat) : Option α := (g.columns.getD x []).getD y none

def column (g : Grid α) (x : Nat) : List (Option α) := g.columns.getD x []

def row (g : Grid α) (y : Nat) : List (Option α) := g.columns.map fun column => column.getD y none

def rows (g : Grid α) : List (List (Option α)) := crosscut none g.rowCount g.columns

def line (g : Grid α) : Axis → Nat → List (Option α)
  | .column => g.column
  | .row => g.row

def lines (g : Grid α) : Axis → List (List (Option α))
  | .column => g.columns
  | .row => g.rows

/-- The indexes of the lines along an axis. -/
def span (g : Grid α) (axis : Axis) : Span := .upTo (g.count axis)

/-- The positions of all cells. -/
def region (g : Grid α) : Region := ⟨⟨0, 0⟩, g.size, Nat.zero_le _, Nat.zero_le _⟩

/-- The cells, column by column. -/
def values (g : Grid α) : List (Option α) := g.columns.flatten

/-- The cells with their positions, column by column. -/
def entries (g : Grid α) : List (Position × Option α) :=
  g.columns.zipIdx.flatMap fun (column, x) => column.zipIdx.map fun (cell, y) => (⟨x, y⟩, cell)

/-- The values that are present, column by column. -/
def present (g : Grid α) : List α := g.values.filterMap id

/-- The grid with `f` applied to every value that is present. -/
def map (f : α → β) (g : Grid α) : Grid β := ⟨g.columns.map fun column => column.map (Option.map f)⟩

/-! ### Sizes -/

@[simp] theorem rowCount_empty : (empty : Grid α).rowCount = 0 := rfl

theorem rectangular_empty : (empty : Grid α).Rectangular := by simp [Rectangular, empty]

theorem isEmpty_iff_columnCount (g : Grid α) : g.isEmpty ↔ g.columnCount = 0 := by
  simp [isEmpty, columnCount]

@[simp] theorem length_row (g : Grid α) (y : Nat) : (g.row y).length = g.columnCount := by
  simp [row, columnCount]

theorem rows_eq_map_row (g : Grid α) : g.rows = (List.range g.rowCount).map g.row :=
  crosscut_eq_map_range none g.rowCount g.columns

@[simp] theorem length_rows (g : Grid α) : g.rows.length = g.rowCount := by simp [rows]

theorem getD_row (g : Grid α) (x y : Nat) : (g.row y).getD x none = g.cell x y := by
  simp only [row, cell, List.getD_eq_getElem?_getD, List.getElem?_map]
  cases g.columns[x]? <;> simp

theorem cell_setCell (g : Grid α) {x y : Nat} (value : Option α) (hx : x < g.columnCount)
    (hy : y < (g.column x).length) (x' y' : Nat) :
    (g.setCell x y value).cell x' y' = if x' = x ∧ y' = y then value else g.cell x' y' := by
  have hx' : x < g.columns.length := hx
  simp only [column, List.getD_eq_getElem?_getD, List.getElem?_eq_getElem hx',
    Option.getD_some] at hy
  simp only [cell, setCell, List.getD_eq_getElem?_getD, List.getElem?_modify]
  by_cases h : x = x'
  · subst h
    by_cases h' : y = y'
    · simp [h', hx', h' ▸ hy]
    · simp [h', Ne.symm h', hx']
  · simp [h, Ne.symm h]

namespace Rectangular

theorem length_of_mem {g : Grid α} (h : g.Rectangular) {column : List (Option α)}
    (hc : column ∈ g.columns) : column.length = g.rowCount := (h column hc).1

/-- Without a row there is no column, and the other way round. -/
theorem columnCount_eq_zero_iff {g : Grid α} (h : g.Rectangular) :
    g.columnCount = 0 ↔ g.rowCount = 0 := by
  rcases g with ⟨_ | ⟨column, columns⟩⟩
  · simp [columnCount, rowCount]
  · have := (h column (by simp)).2
    simpa [columnCount, rowCount] using List.ne_nil_of_length_pos this

end Rectangular

end Grid

end ElasticGrid
