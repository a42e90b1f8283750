import ElasticGrid.Journal
import ElasticGrid.Place.Position

/-!
# Events

What happens to the shape of a grid: it grows at its far end, it becomes empty, its
blank lines are packed away, it is flipped. Records of events tell counts and
indexes, never the values of cells.
-/

namespace ElasticGrid

inductive Event where
  /-- Lines were added at the far end of an axis, which led to the given size. -/
  | stretched (axis : Axis) (added : Nat) (size : Position)
  /-- The last line along an axis was removed. -/
  | collapsed (axis : Axis)
  | packed (rows columns : Nat)
  /-- Rows became columns, which led to the given size. -/
  | flipped (size : Position)
  deriving DecidableEq, Repr

namespace Event

def message : Event → String
  | stretched _ _ _ => "matrix_stretched"
  | collapsed _ => "matrix_collapsed"
  | packed _ _ => "matrix_packed"
  | flipped _ => "matrix_transposed"

def fields : Event → List (String × Datum)
  | stretched axis added size =>
    [("axis", .text axis.plural), ("added", .number (.ofNat added)), ("size", .text size.text)]
  | collapsed axis => [("removed", .text axis.name)]
  | packed rows columns =>
    [("rowsRemoved", .number (.ofNat rows)), ("columnsRemoved", .number (.ofNat columns))]
  | flipped size => [("columns", .number (.ofNat size.x)), ("rows", .number (.ofNat size.y))]

/-- Events are worth a record of severity `debug`. -/
def record (event : Event) : Record := ⟨.debug, event.fields, event.message⟩

/-- The event as seen on the flipped grid. -/
def cross : Event → Event
  | stretched axis added size => stretched axis.cross added size.cross
  | collapsed axis => collapsed axis.cross
  | packed rows columns => packed columns rows
  | flipped size => flipped size.cross

end Event

/-- A journal keeps the records of all events or of none. -/
theorem Level.keep_map_record (level : Level) (events : List Event) :
    level.keep (events.map Event.record) =
      if level.accepts .debug then events.map Event.record else [] := by
  have hsame : (fun record : Record => level.accepts record.severity) ∘ Event.record =
      fun _ => level.accepts .debug := rfl
  rw [keep, List.filter_map, hsame]
  cases level.accepts .debug
  · rw [List.filter_eq_nil_iff.2 fun _ _ => Bool.false_ne_true]; rfl
  · rw [List.filter_eq_self.2 fun _ _ => rfl]; rfl

end ElasticGrid
