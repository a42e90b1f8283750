import ElasticGrid.Datum

/-!
# Styles

A style says how a grid is drawn. A layer sets some of its fields and leaves the
others as they are.
-/

namespace ElasticGrid

structure Style where
  cellDelimiter : String
  rowDelimiter : String
  /-- Stands for an absent cell. -/
  absentMarker : String
  /-- Whether the cells of a column are brought to the same width. -/
  padCells : Bool
  deriving DecidableEq, Repr

structure StyleLayer where
  cellDelimiter : Option String
  rowDelimiter : Option String
  absentMarker : Option String
  padCells : Option Bool
  deriving DecidableEq, Repr

namespace Style

/-- The style where nothing has been set. -/
def standard : Style := ⟨" ", "\n", "", true⟩

/-- The style with what the layer sets. -/
def override (style : Style) (layer : StyleLayer) : Style where
  cellDelimiter := layer.cellDelimiter.getD style.cellDelimiter
  rowDelimiter := layer.rowDelimiter.getD style.rowDelimiter
  absentMarker := layer.absentMarker.getD style.absentMarker
  padCells := layer.padCells.getD style.padCells

/-- The layer that sets every field. -/
def layer (style : Style) : StyleLayer :=
  ⟨some style.cellDelimiter, some style.rowDelimiter, some style.absentMarker, some style.padCells⟩

@[simp] theorem override_layer (style other : Style) : style.override other.layer = other := rfl

end Style

namespace StyleLayer

def toDatum (layer : StyleLayer) : Datum :=
  .record <| [
    layer.cellDelimiter.map fun s => ("cellDelimiter", .text s),
    layer.rowDelimiter.map fun s => ("rowDelimiter", .text s),
    layer.absentMarker.map fun s => ("absentMarker", .text s),
    layer.padCells.map fun b => ("padCells", .truth b)].filterMap id

end StyleLayer

end ElasticGrid
