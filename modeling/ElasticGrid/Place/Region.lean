import ElasticGrid.Place.Position
import ElasticGrid.Place.Span

/-!
# Regions

A region is a rectangle of positions between two corners, the first one included and
the last one not. Its positions go down a column before they go on to the next one.
-/

namespace ElasticGrid

structure Region where
  first : Position
  last : Position
  x_le : first.x ≤ last.x
  y_le : first.y ≤ last.y
  deriving DecidableEq, Repr

/-- One of the values that a region can be given by. -/
inductive Bound where
  | number (value : Number)
  | position (value : Position)
  deriving DecidableEq, Repr

inductive RegionFault where
  | index (fault : IndexFault)
  /-- The first bound was a number and one of the next three was none. -/
  | numbersExpected
  /-- The first bound was no number and one of the first two was no position. -/
  | positionsExpected
  deriving DecidableEq, Repr

/-- What is said about bounds of the wrong sort; a refused index has a report instead. -/
def RegionFault.message : RegionFault → String
  | index fault => fault.message
  | numbersExpected => "Block.of expects four numeric coordinates"
  | positionsExpected => "Block.of expects two Coordinates"

namespace Region

def ofPositions (first last : Position) : Except IndexFault Region :=
  if hx : first.x ≤ last.x then
    if hy : first.y ≤ last.y then .ok ⟨first, last, hx, hy⟩
    else .error (.reversedRegion .row first.y last.y)
  else .error (.reversedRegion .column first.x last.x)

def requireNumber : Option Bound → Except RegionFault Number
  | some (.number n) => .ok n
  | _ => .error .numbersExpected

/-- The region given by four numbers or by two positions; further bounds do not count.
The first corner is looked at before the last one is. -/
def ofBounds (bounds : List Bound) : Except RegionFault Region := do
  let corners ← match bounds with
    | .number x1 :: rest => do
      let y1 ← requireNumber rest[0]?
      let first ← (Position.ofNumbers x1 y1).mapError .index
      let x2 ← requireNumber rest[1]?
      let y2 ← requireNumber rest[2]?
      let last ← (Position.ofNumbers x2 y2).mapError .index
      pure (first, last)
    | .position first :: .position last :: _ => pure (first, last)
    | _ => throw .positionsExpected
  (ofPositions corners.1 corners.2).mapError .index

def xSpan (r : Region) : Span := ⟨r.first.x, r.last.x, r.x_le⟩

def ySpan (r : Region) : Span := ⟨r.first.y, r.last.y, r.y_le⟩

def size (r : Region) : Position := ⟨r.last.x - r.first.x, r.last.y - r.first.y⟩

def isEmpty (r : Region) : Bool := r.first.x == r.last.x || r.first.y == r.last.y

def contains (r : Region) (p : Position) : Bool :=
  r.xSpan.includes (.ofNat p.x) && r.ySpan.includes (.ofNat p.y)

def toList (r : Region) : List Position :=
  r.xSpan.toList.flatMap fun x => r.ySpan.toList.map fun y => ⟨x, y⟩

/-- Goes through the positions one by one. -/
def fold {β : Type} (r : Region) (f : β → Position → β) (b : β) : β :=
  r.xSpan.fold (fun b x => r.ySpan.fold (fun b y => f b ⟨x, y⟩) b) b

def text (r : Region) : String := s!"{r.first.text}..{r.last.text}"

theorem pairwise_toList (r : Region) : r.toList.Pairwise Position.Before := by
  rw [toList, List.pairwise_flatMap]
  refine ⟨fun x _ => ?_, (List.pairwise_lt_range' 1).imp fun hx => ?_⟩
  · rw [List.pairwise_map]
    exact (List.pairwise_lt_range' 1).imp fun hy => .inr ⟨rfl, hy⟩
  · intro p hp q hq
    obtain ⟨_, -, rfl⟩ := List.mem_map.1 hp
    obtain ⟨_, -, rfl⟩ := List.mem_map.1 hq
    exact .inl hx

theorem fold_eq_foldl_toList {β : Type} (r : Region) (f : β → Position → β) (b : β) :
    r.fold f b = r.toList.foldl f b := by
  simp only [fold, toList, Span.fold_eq_foldl_toList, List.foldl_flatMap, List.foldl_map]

theorem contains_eq_decide_mem (r : Region) (p : Position) :
    r.contains p = decide (p ∈ r.toList) := by
  obtain ⟨x, y⟩ := p
  simp only [contains, Span.includes_ofNat, ← Bool.decide_and, decide_eq_decide, toList,
    List.mem_flatMap, List.mem_map, Position.mk.injEq]
  constructor
  · rintro ⟨hx, hy⟩
    exact ⟨x, hx, y, hy, rfl, rfl⟩
  · rintro ⟨_, hx, _, hy, rfl, rfl⟩
    exact ⟨hx, hy⟩

end Region

end ElasticGrid
