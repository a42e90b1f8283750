import ElasticGrid.Grid.Address
import ElasticGrid.Grid.Search

/-!
# Queries

A query reads a grid and leaves it as it is. Its answer is a view of the grid, or
the fault of an address that stands for nothing.
-/

namespace ElasticGrid

/-- A type of cell values: an equality, which need not be reflexive, and a text for each. -/
class Content (α : Type) where
  same : α → α → Bool
  text : α → String

inductive Query (α : Type) where
  | cell (address : CellAddress)
  | line (axis : Axis) (address : LineAddress)
  | lines (axis : Axis)
  | span (axis : Axis)
  /-- The region of the whole grid, and whether it contains each of some positions. -/
  | region (probes : List (Number × Number))
  | size
  | values
  | entries
  | contains (value : Option α)
  | firstIndexOf (value : Option α)
  | lastIndexOf (value : Option α)
  deriving DecidableEq, Repr

inductive View (α : Type) where
  | cell (value : Option α)
  | line (cells : List (Option α))
  | lines (lines : List (List (Option α)))
  | span (span : Span)
  | region (region : Region) (contained : List Bool)
  | size (size : Position)
  | entries (entries : List (Position × Option α))
  | truth (value : Bool)
  | place (position : Option Position)
  deriving DecidableEq, Repr

/-- For each pair of indexes whether the region contains their position. -/
def Region.containsEach (r : Region) (probes : List (Number × Number)) :
    Except IndexFault (List Bool) :=
  probes.mapM fun (x, y) => (Position.ofNumbers x y).map r.contains

namespace Query

variable {α : Type} [Content α]

def answer (g : Grid α) : Query α → Except IndexFault (View α)
  | cell address => (g.findCell address).map fun p => .cell (g.cell p.x p.y)
  | line axis address => (g.findLine axis address).map fun i => .line (g.line axis i)
  | lines axis => .ok (.lines (g.lines axis))
  | span axis => .ok (.span (g.span axis))
  | region probes => (g.region.containsEach probes).map (.region g.region)
  | size => .ok (.size g.size)
  | values => .ok (.line g.values)
  | entries => .ok (.entries g.entries)
  | contains value => .ok (.truth (g.contains Content.same value))
  | firstIndexOf value => .ok (.place (g.firstIndexOf Content.same value))
  | lastIndexOf value => .ok (.place (g.lastIndexOf Content.same value))

end Query

end ElasticGrid
