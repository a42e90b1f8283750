/-!
# Axes

A column has an `x`, a row has a `y`. What a grid does along one axis it does along
the other one too, so most operations take the axis they work on.
-/

namespace ElasticGrid

inductive Axis where
  | column
  | row
  deriving DecidableEq, Repr

namespace Axis

/-- The other axis. -/
def cross : Axis → Axis
  | column => row
  | row => column

@[simp] theorem cross_cross (axis : Axis) : axis.cross.cross = axis := by cases axis <;> rfl

def name : Axis → String
  | column => "column"
  | row => "row"

def plural : Axis → String
  | column => "columns"
  | row => "rows"

def title : Axis → String
  | column => "Column"
  | row => "Row"

def letter : Axis → String
  | column => "X"
  | row => "Y"

end Axis

end ElasticGrid
