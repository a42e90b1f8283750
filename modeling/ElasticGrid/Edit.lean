import ElasticGrid.Editing

/-!
# Edits

An edit changes a grid, notes the events of the change and gives back the cells that
it took out.
-/

namespace ElasticGrid

/-- The cells that an edit took out of a grid. -/
inductive Returned (α : Type) where
  | nothing
  | cell (value : Option α)
  | line (cells : List (Option α))
  deriving DecidableEq, Repr

inductive Edit (α : Type) where
  | setCell (address : CellAddress) (value : Option α)
  | insert (axis : Axis) (slot : SlotAddress) (values : List (Option α))
  | remove (axis : Axis) (line : LineAddress)
  | replace (axis : Axis) (index : Number) (values : List (Option α))
  | pack (rows columns : Bool)
  | clear
  | reverse (axis : Axis)
  | flip
  | turn (clockwise : Bool)
  | swapCells (a b : CellAddress)
  | swapLines (axis : Axis) (i j : Number)
  deriving DecidableEq, Repr

namespace Edit

variable {α : Type}

/-- What an edit does. -/
def perform : Edit α → Editing α (Returned α)
  | setCell address value => .cell <$> Editing.setCell address value
  | insert axis slot values => do Editing.insertLine axis slot values; return .nothing
  | remove axis line => .line <$> Editing.removeLine axis line
  | replace axis index values => .line <$> Editing.replaceLine axis index values
  | pack rows columns => do Editing.pack rows columns; return .nothing
  | clear => do Editing.change fun _ => .empty; return .nothing
  | reverse axis => do Editing.change (Grid.reverse axis); return .nothing
  | flip => do Editing.flip; return .nothing
  | turn clockwise => do
    Editing.flip
    Editing.change (Grid.reverse (if clockwise then .column else .row))
    return .nothing
  | swapCells a b => do Editing.swapCells a b; return .nothing
  | swapLines axis i j => do Editing.swapLines axis i j; return .nothing

/-- The outcome of an edit on a grid: what it gave back or the fault, and the draft it left. -/
def run (edit : Edit α) (g : Grid α) : Except IndexFault (Returned α) × Draft α :=
  edit.perform.outcome ⟨g, []⟩

end Edit

end ElasticGrid
