import ElasticGrid.Editing

/-!
# Where grids come from

A grid starts empty, or blank with a given size, or from a list of its rows or its
columns. Shorter lines of a list are filled up with absent cells; a list of lines of
which some but not all are empty is refused.
-/

namespace ElasticGrid

inductive Source (α : Type) where
  | empty
  | ofSize (columns rows : Number)
  | ofLines (axis : Axis) (lines : List (List (Option α)))
  deriving DecidableEq, Repr

namespace Source

variable {α : Type}

/-- The number of columns and of rows, which are zero together or not at all. -/
def requireSize (columns rows : Number) : Except IndexFault Position := do
  let c ← columns.requireIndex (.lineCount .column)
  let r ← rows.requireIndex (.lineCount .row)
  if c = 0 ↔ r = 0 then return ⟨c, r⟩ else throw (.flatSize c r)

/-- Refuses the first empty line among lines that are not all empty. -/
def requireEven (axis : Axis) (lines : List (List (Option α))) : Except IndexFault Unit :=
  match lines.findIdx? List.isEmpty with
  | some position => if lines.all List.isEmpty then .ok () else .error (.emptyLine axis position)
  | none => .ok ()

/-- Puts the lines in one after the other; an empty line leaves no trace. -/
def appendLines (axis : Axis) (lines : List (List (Option α))) : Editing α Unit :=
  lines.forM fun line => unless line.isEmpty do Editing.insertLine axis .atEnd line

/-- Makes the grid out of an empty one. -/
def perform : Source α → Editing α Unit
  | empty => return
  | ofSize columns rows => do
    let size ← Editing.require (requireSize columns rows)
    Editing.change fun _ => .blank size.x size.y
  | ofLines axis lines => do
    Editing.require (requireEven axis lines)
    appendLines axis lines

/-- The outcome of building: success or the fault, and the draft it left. -/
def run (source : Source α) : Except IndexFault Unit × Draft α :=
  source.perform.outcome ⟨.empty, []⟩

end Source

end ElasticGrid
