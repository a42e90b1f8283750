import ElasticGrid.Style.Basic

/-!
# From plain data to a style

A layer comes as a record with some of the four fields, each of its kind and no
others. `Style.resolve` lays such layers over the standard style, one after the
other; the first layer with an issue stops it. A layer that is no more than a way of
saying nothing is skipped.
-/

namespace ElasticGrid

inductive StyleField where
  | cellDelimiter
  | rowDelimiter
  | absentMarker
  | padCells
  deriving DecidableEq, Repr

namespace StyleField

def all : List StyleField := [cellDelimiter, rowDelimiter, absentMarker, padCells]

def name : StyleField → String
  | cellDelimiter => "cellDelimiter"
  | rowDelimiter => "rowDelimiter"
  | absentMarker => "absentMarker"
  | padCells => "padCells"

def kind : StyleField → Datum.Kind
  | padCells => .truth
  | _ => .text

end StyleField

/-- Something wrong with the data that a style is made from. -/
inductive StyleIssue where
  | notARecord (received : Datum.Kind)
  | wrongKind (field : StyleField) (received : Datum.Kind)
  | missing (field : StyleField)
  | unknownFields (names : List String)
  deriving DecidableEq, Repr

namespace StyleIssue

def message : StyleIssue → String
  | notARecord received => s!"Expected {Datum.Kind.record.name}, received {received.name}"
  | wrongKind field received => s!"Expected {field.kind.name}, received {received.name}"
  | missing _ => "Required"
  | unknownFields names =>
    "Unrecognized key(s) in object: " ++ ", ".intercalate (names.map fun name => s!"'{name}'")

/-- The issue of one field; a field that is not there is one only where all are required. -/
def ofField (required : Bool) (fields : List (String × Datum)) (field : StyleField) :
    Option StyleIssue :=
  match Datum.field? fields field.name with
  | none => if required then some (missing field) else none
  | some value => if value.kind = field.kind then none else some (wrongKind field value.kind)

/-- The names that are not those of a style field, in the order of the record. -/
def strangers (fields : List (String × Datum)) : List String :=
  (fields.map (·.1)).filter fun name => !(StyleField.all.map StyleField.name).contains name

/-- All issues: first those of the four fields, then one for all unknown names. -/
def ofDatum (required : Bool) : Datum → List StyleIssue
  | .record fields =>
    StyleField.all.filterMap (ofField required fields) ++
      if (strangers fields).isEmpty then [] else [unknownFields (strangers fields)]
  | other => [notARecord other.kind]

end StyleIssue

namespace StyleLayer

def textField (fields : List (String × Datum)) (field : StyleField) : Option String :=
  match Datum.field? fields field.name with
  | some (.text s) => some s
  | _ => none

def truthField (fields : List (String × Datum)) (field : StyleField) : Option Bool :=
  match Datum.field? fields field.name with
  | some (.truth b) => some b
  | _ => none

/-- What the fields of the right kind set. -/
def ofFields (fields : List (String × Datum)) : StyleLayer where
  cellDelimiter := textField fields .cellDelimiter
  rowDelimiter := textField fields .rowDelimiter
  absentMarker := textField fields .absentMarker
  padCells := truthField fields .padCells

/-- Reads a layer, in which any field may be left out. -/
def ofDatum (datum : Datum) : Except (List StyleIssue) StyleLayer :=
  match datum, StyleIssue.ofDatum false datum with
  | .record fields, [] => .ok (ofFields fields)
  | _, issues => .error issues

/-- A layer is read back from its data. -/
theorem ofDatum_toDatum (layer : StyleLayer) : ofDatum layer.toDatum = .ok layer := by
  obtain ⟨_ | _, _ | _, _ | _, _ | _⟩ := layer <;> rfl

end StyleLayer

namespace Style

/-- Reads a style, in which no field may be left out. -/
def ofDatum (datum : Datum) : Except (List StyleIssue) Style :=
  match datum, StyleIssue.ofDatum true datum with
  | .record fields, [] => .ok (standard.override (.ofFields fields))
  | _, issues => .error issues

/-- The style with one more layer on it. -/
def lay (style : Style) (datum : Datum) : Except (List StyleIssue) Style :=
  if datum.isBlank then .ok style else (StyleLayer.ofDatum datum).map style.override

def resolve (layers : List Datum) : Except (List StyleIssue) Style := layers.foldlM lay standard

theorem lay_toDatum (layer : StyleLayer) (style : Style) :
    style.lay layer.toDatum = .ok (style.override layer) := by
  rw [lay, StyleLayer.ofDatum_toDatum]
  rfl

/-- One layer, with nothing laid over it. -/
theorem resolve_toDatum (layer : StyleLayer) :
    resolve [layer.toDatum, .null] = .ok (standard.override layer) := by
  rw [resolve, List.foldlM_cons, lay_toDatum]
  rfl

end Style

end ElasticGrid
