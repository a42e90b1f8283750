import ElasticGrid.Sheet
import Mathlib.Data.List.Forall2

/-!
# What a record says

The four records that a grid can leave in a journal, each with its severity, its fields in their
order and its message. `Event.record_crossed` is the exchange of rows and columns as a reader of
the journal sees it.
-/

namespace ElasticGrid

namespace Record

/-- Lines were added at the far end of an axis, which led to the given size. -/
def stretched : Axis → Nat → Position → Record
  | .column, added, size =>
    ⟨.debug, [("axis", .text "columns"), ("added", .number (.ofNat added)),
      ("size", .text s!"[{size.x}, {size.y}]")], "matrix_stretched"⟩
  | .row, added, size =>
    ⟨.debug, [("axis", .text "rows"), ("added", .number (.ofNat added)),
      ("size", .text s!"[{size.x}, {size.y}]")], "matrix_stretched"⟩

/-- The last line along an axis was removed. -/
def collapsed : Axis → Record
  | .column => ⟨.debug, [("removed", .text "column")], "matrix_collapsed"⟩
  | .row => ⟨.debug, [("removed", .text "row")], "matrix_collapsed"⟩

def packed (rows columns : Nat) : Record :=
  ⟨.debug, [("rowsRemoved", .number (.ofNat rows)), ("columnsRemoved", .number (.ofNat columns))],
    "matrix_packed"⟩

/-- Rows became columns, which led to the given size. -/
def transposed (size : Position) : Record :=
  ⟨.debug, [("columns", .number (.ofNat size.x)), ("rows", .number (.ofNat size.y))],
    "matrix_transposed"⟩

theorem message_stretched (axis : Axis) (added : Nat) (size : Position) :
    (stretched axis added size).message = "matrix_stretched" := by
  cases axis <;> rfl

theorem added_of_stretched_eq {axis : Axis} {m n : Nat} {size size' : Position}
    (h : stretched axis m size = stretched axis n size') : m = n := by
  have hfields : (stretched axis m size).fields = (stretched axis n size').fields :=
    congrArg fields h
  cases axis <;>
    · simp only [stretched, List.cons.injEq, Prod.mk.injEq, true_and, Datum.number.injEq] at hfields
      exact Rat.natCast_inj.1 (Number.finite.inj hfields.1)

/-- The second record says of columns what the first one says of rows, and the other way round. -/
inductive Crossed : Record → Record → Prop where
  | stretched (axis : Axis) (added columns rows : Nat) :
    Crossed (.stretched axis added ⟨columns, rows⟩) (.stretched axis.cross added ⟨rows, columns⟩)
  | collapsed (axis : Axis) : Crossed (.collapsed axis) (.collapsed axis.cross)
  | packed (rows columns : Nat) : Crossed (.packed rows columns) (.packed columns rows)
  | transposed (columns rows : Nat) :
    Crossed (.transposed ⟨columns, rows⟩) (.transposed ⟨rows, columns⟩)

end Record

namespace Event

@[simp] theorem record_stretched (axis : Axis) (added : Nat) (size : Position) :
    (stretched axis added size).record = .stretched axis added size := by
  cases axis <;> rfl

@[simp] theorem record_collapsed (axis : Axis) : (collapsed axis).record = .collapsed axis := by
  cases axis <;> rfl

@[simp] theorem record_packed (rows columns : Nat) :
    (packed rows columns).record = .packed rows columns := rfl

@[simp] theorem record_flipped (size : Position) : (flipped size).record = .transposed size := rfl

theorem record_crossed (event : Event) : event.record.Crossed event.cross.record := by
  cases event with
  | stretched axis added size =>
    rw [cross, record_stretched, record_stretched]
    exact .stretched axis added size.x size.y
  | collapsed axis =>
    rw [cross, record_collapsed, record_collapsed]
    exact .collapsed axis
  | packed rows columns => exact .packed rows columns
  | flipped size => exact .transposed size.x size.y

end Event

namespace Sheet

variable {α : Type}

theorem records_nil (sheet : Sheet α) : sheet.records [] = [] := by
  unfold records
  cases sheet.level <;> rfl

theorem records_append (sheet : Sheet α) (before after : List Event) :
    sheet.records (before ++ after) = sheet.records before ++ sheet.records after := by
  unfold records
  cases sheet.level with
  | none => rfl
  | some level => simp only [Level.keep, List.map_append, List.filter_append]

/-- Either all events leave a record or none does. -/
theorem records_crossed (sheet : Sheet α) (events : List Event) :
    List.Forall₂ Record.Crossed (sheet.records events) (sheet.records (events.map Event.cross)) := by
  unfold records
  cases sheet.level with
  | none => exact .nil
  | some level =>
    simp only [Level.keep_map_record]
    split
    · rw [List.map_map, List.forall₂_map_left_iff, List.forall₂_map_right_iff]
      exact List.forall₂_same.2 fun event _ => event.record_crossed
    · exact .nil

end Sheet

end ElasticGrid
