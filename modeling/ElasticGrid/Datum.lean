import ElasticGrid.Number.Basic
import ElasticGrid.Text.Units

/-!
# Plain data

Data as it comes from outside, before anything has been required of it. A record
holds the fields whose names are places first, by place, and all others in the order in
which they were given. Lists and texts can be taken for records too, with their places
for names.
-/

namespace ElasticGrid

inductive Datum where
  | null
  | truth (value : Bool)
  | number (value : Number)
  | text (value : String)
  | list (items : List Datum)
  | record (fields : List (String × Datum))
  deriving Repr

namespace Datum

inductive Kind where
  | null
  | truth
  | number
  | nan
  | text
  | list
  | record
  deriving DecidableEq, Repr

def Kind.name : Kind → String
  | null => "null"
  | truth => "boolean"
  | number => "number"
  | nan => "nan"
  | text => "string"
  | list => "array"
  | record => "object"

def kind : Datum → Kind
  | null => .null
  | truth _ => .truth
  | number .nan => .nan
  | number _ => .number
  | text _ => .text
  | list _ => .list
  | record _ => .record

theorem kind_eq_text_iff {datum : Datum} : datum.kind = .text ↔ ∃ s, datum = .text s := by
  rcases datum with _ | _ | (_ | _ | _ | _) | _ | _ | _ <;> simp [kind]

theorem kind_eq_truth_iff {datum : Datum} : datum.kind = .truth ↔ ∃ b, datum = .truth b := by
  rcases datum with _ | _ | (_ | _ | _ | _) | _ | _ | _ <;> simp [kind]

/-- Whether it counts as nothing given: null, false, zero, no number and the empty text do. -/
def isBlank : Datum → Bool
  | null => true
  | truth b => !b
  | number n => n == .nan || n.same (.ofNat 0)
  | text s => s == ""
  | list _ => false
  | record _ => false

/-- The value of a field of a record. -/
def field? (fields : List (String × Datum)) (name : String) : Option Datum :=
  (fields.find? fun f => f.1 == name).map (·.2)

/-! ### Places as names -/

/-- Places are counted in 32 bits, and the last number is none. -/
def placeLimit : Nat := 0xffffffff

/-- The place that a name writes, without needless zeros. -/
def place? (name : String) : Option Nat :=
  let n := Nat.ofDigitChars 10 name.toList 0
  if n < placeLimit ∧ toString n = name then some n else none

/-- A record with some fields: those named by places come first, by place, all others as given. -/
def ofFields (fields : List (String × Datum)) : Datum :=
  let (atPlaces, others) := fields.partition fun f => (place? f.1).isSome
  record (atPlaces.mergeSort (fun f g => (place? f.1).getD 0 ≤ (place? g.1).getD 0) ++ others)

/-- Each item under its place. -/
def placed (items : List Datum) : List (String × Datum) :=
  items.zipIdx.map fun (item, i) => (toString i, item)

/-- What is held under names: a record holds its fields, a list its items, and a text a character
for each of its 16-bit units. All else holds nothing. -/
def fields : Datum → List (String × Datum)
  | record fields => fields
  | list items => placed items
  | text s => placed (s.toList.flatMap fun c => List.replicate (Text.unitsOf c) (text c.toString))
  | _ => []

end Datum

end ElasticGrid
