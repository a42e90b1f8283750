import ElasticGrid.Event
import ElasticGrid.Grid.Address
import ElasticGrid.Grid.Pack
import ElasticGrid.Grid.Reorder
import ElasticGrid.Grid.Resize

/-!
# Editing

The language in which changes of a grid are written: steps on a draft, each of which
may be refused. A refusal keeps the draft as it was at that moment, so that a change
leaves nothing half done is a fact about the change, not about the language.
`outcome` runs it; its lemmas take a change apart step by step.
-/

namespace ElasticGrid

/-- A grid under work and the events so far, the oldest first. -/
structure Draft (α : Type) where
  grid : Grid α
  events : List Event
  deriving DecidableEq, Repr

abbrev Editing (α β : Type) := ExceptT IndexFault (StateM (Draft α)) β

namespace Editing

variable {α β : Type}

def grid : Editing α (Grid α) := return (← get).grid

def change (f : Grid α → Grid α) : Editing α Unit :=
  modify fun draft => ⟨f draft.grid, draft.events⟩

def note (event : Event) : Editing α Unit :=
  modify fun draft => ⟨draft.grid, draft.events ++ [event]⟩

/-- Looks something up, which may be refused. -/
def require (found : Except IndexFault β) : Editing α β := ExceptT.mk (pure found)

/-- What comes of some editing on a draft: a result or a fault, and the draft it left. -/
def outcome (editing : Editing α β) (draft : Draft α) : Except IndexFault β × Draft α :=
  editing.run.run draft

@[simp] theorem outcome_pure (b : β) (draft : Draft α) :
    outcome (pure b) draft = (.ok b, draft) := rfl

theorem outcome_bind {γ : Type} (editing : Editing α β) (next : β → Editing α γ)
    (draft : Draft α) :
    outcome (editing >>= next) draft =
      match outcome editing draft with
      | (.ok b, left) => outcome (next b) left
      | (.error fault, left) => (.error fault, left) := by
  simp only [outcome, ExceptT.run_bind, StateT.run_bind]
  rcases editing.run.run draft with ⟨_ | _, _⟩ <;> rfl

theorem outcome_map {γ : Type} (f : β → γ) (editing : Editing α β) (draft : Draft α) :
    outcome (f <$> editing) draft =
      ((outcome editing draft).1.map f, (outcome editing draft).2) := by
  simp only [outcome, ExceptT.run_map, StateT.run_map]
  rfl

@[simp] theorem outcome_grid (draft : Draft α) : outcome grid draft = (.ok draft.grid, draft) := rfl

@[simp] theorem outcome_change (f : Grid α → Grid α) (draft : Draft α) :
    outcome (change f) draft = (.ok (), ⟨f draft.grid, draft.events⟩) := rfl

@[simp] theorem outcome_note (event : Event) (draft : Draft α) :
    outcome (note event) draft = (.ok (), ⟨draft.grid, draft.events ++ [event]⟩) := rfl

@[simp] theorem outcome_require (found : Except IndexFault β) (draft : Draft α) :
    outcome (require found) draft = (found, draft) := rfl

/-! ### Steps -/

def setCell (address : CellAddress) (value : Option α) : Editing α (Option α) := do
  let g ← grid
  let p ← require (g.findCell address)
  change (Grid.setCell p.x p.y value)
  return g.cell p.x p.y

/-- Lets an axis grow to `n` lines if it has fewer. -/
def growTo (axis : Axis) (n : Nat) : Editing α Unit := do
  let g ← grid
  if g.count axis < n then
    change (Grid.stretch axis n)
    note (.stretched axis (n - g.count axis) (g.stretch axis n).size)

/-- A line that is longer than the lines of the grid lets the other axis grow first. A
line put into the empty grid makes its size and stretches nothing. -/
def insertLine (axis : Axis) (slot : SlotAddress) (values : List (Option α)) : Editing α Unit := do
  let g ← grid
  let i ← require (g.findSlot axis slot)
  unless g.isEmpty do growTo axis.cross values.length
  change (Grid.insert axis i values)

def removeLine (axis : Axis) (line : LineAddress) : Editing α (List (Option α)) := do
  let g ← grid
  let i ← require (g.findLine axis line)
  change (Grid.erase axis i)
  if (g.erase axis i).isEmpty then note (.collapsed axis)
  return g.line axis i

/-- Takes the old line out, puts the new one in at the same index, and grows back to the
size that the grid had if it shrank in between. -/
def replaceLine (axis : Axis) (index : Number) (values : List (Option α)) :
    Editing α (List (Option α)) := do
  let previous ← removeLine axis (.nth index)
  insertLine axis (.before index) values
  growTo axis.cross previous.length
  return previous

/-- Packs one axis and tells how many lines went. -/
def packAxis (axis : Axis) : Editing α Nat := do
  let g ← grid
  change (Grid.pack axis)
  if !g.isEmpty && (g.pack axis).isEmpty then note (.collapsed axis)
  return g.count axis - (g.pack axis).count axis

/-- Rows are packed before columns. -/
def pack (rows columns : Bool) : Editing α Unit := do
  let rowsGone ← if rows then packAxis .row else pure 0
  let columnsGone ← if columns then packAxis .column else pure 0
  if 0 < rowsGone ∨ 0 < columnsGone then note (.packed rowsGone columnsGone)

def flip : Editing α Unit := do
  let g ← grid
  change Grid.flip
  unless g.flip.isEmpty do note (.flipped g.flip.size)

/-- All four indexes are looked up before a cell is touched. -/
def swapCells (a b : CellAddress) : Editing α Unit := do
  let g ← grid
  let (x1, y1) ← require a.numbers
  let (x2, y2) ← require b.numbers
  let p ← require (g.cellAt x1 y1)
  let q ← require (g.cellAt x2 y2)
  change (Grid.swapCells p q)

def swapLines (axis : Axis) (i j : Number) : Editing α Unit := do
  let g ← grid
  let i ← require (g.lineAt axis i)
  let j ← require (g.lineAt axis j)
  change (Grid.swap axis i j)

end Editing

end ElasticGrid
