import ElasticGrid.Grid.Basic

/-!
# Looking for a cell

A search takes the equality of values as an argument, so it need not be reflexive.
An absent cell is only equal to an absent cell. The first cell is the leftmost one,
in its column the topmost one.
-/

namespace ElasticGrid.Grid

variable {α : Type}

/-- The equality of cells that comes from an equality of values. -/
def sameCell (same : α → α → Bool) : Option α → Option α → Bool
  | none, none => true
  | some a, some b => same a b
  | _, _ => false

def firstIndexOf (same : α → α → Bool) (value : Option α) (g : Grid α) : Option Position :=
  (g.entries.find? fun entry => sameCell same entry.2 value).map (·.1)

def lastIndexOf (same : α → α → Bool) (value : Option α) (g : Grid α) : Option Position :=
  (g.entries.reverse.find? fun entry => sameCell same entry.2 value).map (·.1)

def contains (same : α → α → Bool) (value : Option α) (g : Grid α) : Bool :=
  (g.firstIndexOf same value).isSome

end ElasticGrid.Grid
