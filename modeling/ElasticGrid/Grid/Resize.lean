import ElasticGrid.Grid.Basic

/-!
# Insertion and removal of lines

A line that goes into a grid may be shorter or longer than the grid is wide: the
missing cells are absent, and for surplus cells the grid grows first, by absent
lines at its far end. The last line to go leaves the empty grid.
-/

namespace ElasticGrid.Grid

variable {α : Type}

/-- Absent columns on the right until there are `n`. -/
def widen (n : Nat) (g : Grid α) : Grid α :=
  ⟨g.columns.rightpad n (List.replicate g.rowCount none)⟩

/-- Absent rows at the bottom until there are `n`. -/
def heighten (n : Nat) (g : Grid α) : Grid α :=
  ⟨g.columns.map fun column => column.rightpad n none⟩

/-- Absent lines along an axis until there are `n`. -/
def stretch : Axis → Nat → Grid α → Grid α
  | .column => widen
  | .row => heighten

/-- Puts a row in as row `y`. An empty grid becomes one row of at least one cell. -/
def insertRow (y : Nat) (values : List (Option α)) (g : Grid α) : Grid α :=
  let width := max g.columnCount (max values.length 1)
  ⟨List.zipWith (fun column value => column.insertIdx y value) (g.widen width).columns
    (values.rightpad width none)⟩

/-- Puts a column in as column `x`. An empty grid becomes one column of at least one cell. -/
def insertColumn (x : Nat) (values : List (Option α)) (g : Grid α) : Grid α :=
  let height := max g.rowCount (max values.length 1)
  ⟨(g.heighten height).columns.insertIdx x (values.rightpad height none)⟩

def insert : Axis → Nat → List (Option α) → Grid α → Grid α
  | .column => insertColumn
  | .row => insertRow

def eraseRow (y : Nat) (g : Grid α) : Grid α :=
  let rest : Grid α := ⟨g.columns.map fun column => column.eraseIdx y⟩
  if rest.rowCount = 0 then empty else rest

def eraseColumn (x : Nat) (g : Grid α) : Grid α := ⟨g.columns.eraseIdx x⟩

def erase : Axis → Nat → Grid α → Grid α
  | .column => eraseColumn
  | .row => eraseRow

/-! ### Filling up a list -/

theorem rightpad_of_le {γ : Type} {a : γ} {l : List γ} {n : Nat} (hn : n ≤ l.length) :
    l.rightpad n a = l := by
  rw [List.rightpad, Nat.sub_eq_zero_of_le hn, List.replicate_zero, List.append_nil]

/-- Filling up in two steps is filling it up in one. -/
theorem rightpad_rightpad {γ : Type} {a : γ} {l : List γ} {m n : Nat} (hmn : m ≤ n) :
    (l.rightpad m a).rightpad n a = l.rightpad n a := by
  simp only [List.rightpad, List.append_assoc, List.replicate_append_replicate,
    List.length_append, List.length_replicate]
  congr 2
  omega

/-! ### Growth shows in no cell -/

theorem getD_rightpad_none (n : Nat) (cells : List (Option α)) (y : Nat) :
    (cells.rightpad n none).getD y none = cells.getD y none := by
  simp only [List.rightpad, List.getD_eq_getElem?_getD]
  by_cases h : y < cells.length
  · rw [List.getElem?_append_left h]
  · have hy : cells[y]? = none := List.getElem?_eq_none (by omega)
    rw [List.getElem?_append_right (by omega), hy, List.getElem?_replicate]
    split <;> rfl

theorem cell_widen (n : Nat) (g : Grid α) (x y : Nat) : (g.widen n).cell x y = g.cell x y := by
  simp only [cell, widen, List.rightpad, List.getD_eq_getElem?_getD]
  by_cases h : x < g.columns.length
  · rw [List.getElem?_append_left h]
  · have hx : g.columns[x]? = none := List.getElem?_eq_none (by omega)
    rw [List.getElem?_append_right (by omega), hx, List.getElem?_replicate]
    split
    · simp only [Option.getD_some, List.getElem?_replicate]
      split <;> rfl
    · rfl

theorem cell_heighten (n : Nat) (g : Grid α) (x y : Nat) :
    (g.heighten n).cell x y = g.cell x y := by
  simp only [cell, heighten, List.getD_eq_getElem?_getD, List.getElem?_map]
  cases g.columns[x]? with
  | none => rfl
  | some column =>
    have := getD_rightpad_none n column y
    simpa only [List.getD_eq_getElem?_getD, Option.map_some, Option.getD_some] using this

/-! ### Sizes -/

@[simp] theorem columnCount_widen (n : Nat) (g : Grid α) :
    (g.widen n).columnCount = max n g.columnCount := by
  simp [widen, columnCount]; omega

@[simp] theorem columnCount_heighten (n : Nat) (g : Grid α) :
    (g.heighten n).columnCount = g.columnCount := by
  simp [heighten, columnCount]

@[simp] theorem columnCount_insertRow (y : Nat) (values : List (Option α)) (g : Grid α) :
    (g.insertRow y values).columnCount = max g.columnCount (max values.length 1) := by
  simp only [insertRow, columnCount, List.length_zipWith, widen, List.length_rightpad]
  omega

theorem columnCount_insertColumn {x : Nat} (values : List (Option α)) {g : Grid α}
    (h : x ≤ g.columnCount) : (g.insertColumn x values).columnCount = g.columnCount + 1 := by
  simp [insertColumn, columnCount, heighten, List.length_insertIdx] at h ⊢
  omega

end ElasticGrid.Grid
