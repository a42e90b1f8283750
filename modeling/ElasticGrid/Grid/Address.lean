import ElasticGrid.Grid.Basic

/-!
# Addresses

An address names a line, a slot between lines or a cell of a grid. To look it up is
to find the indexes it stands for, or the fault that makes it stand for nothing. The
column of a cell is looked at before its row.
-/

namespace ElasticGrid

/-- Names a line of a grid along some axis. -/
inductive LineAddress where
  | nth (index : Number)
  | first
  | last
  deriving DecidableEq, Repr

/-- Names a slot for a new line along some axis. -/
inductive SlotAddress where
  | before (index : Number)
  | after (index : Number)
  | atEnd
  deriving DecidableEq, Repr

/-- Names a cell, by two indexes or by the position made from them. -/
inductive CellAddress where
  | indexes (x y : Number)
  | position (x y : Number)
  deriving DecidableEq, Repr

/-- The two indexes of a cell address. Those of a position have to be indexes before
any grid is looked at. -/
def CellAddress.numbers : CellAddress → Except IndexFault (Number × Number)
  | indexes x y => .ok (x, y)
  | position x y => (Position.ofNumbers x y).map fun p => (.ofNat p.x, .ofNat p.y)

namespace Grid

variable {α : Type}

/-- The index of an existing line. -/
def lineAt (g : Grid α) (axis : Axis) (index : Number) : Except IndexFault Nat := do
  let i ← index.requireIndex (.line axis)
  if i < g.count axis then return i else throw (.noSuchLine axis i (g.count axis))

/-- The index that a new line can take: that of an existing line or the one after the last. -/
def slotAt (g : Grid α) (axis : Axis) (index : Number) : Except IndexFault Nat := do
  let i ← index.requireIndex (.line axis)
  if i ≤ g.count axis then return i else throw (.noSuchSlot axis i (g.count axis))

def findLine (g : Grid α) (axis : Axis) : LineAddress → Except IndexFault Nat
  | .nth index => g.lineAt axis index
  | .first => g.lineAt axis (.ofNat 0)
  | .last =>
    match g.count axis with
    | 0 => .error (.notAnIndex (.line axis) (.ofInt (-1)))
    | last + 1 => .ok last

def findSlot (g : Grid α) (axis : Axis) : SlotAddress → Except IndexFault Nat
  | .before index => g.slotAt axis index
  | .after index => do
    let i ← index.requireIndex (.line axis)
    g.slotAt axis (.ofNat (i + 1))
  | .atEnd => .ok (g.count axis)

def cellAt (g : Grid α) (x y : Number) : Except IndexFault Position := do
  let x ← g.lineAt .column x
  let y ← g.lineAt .row y
  return ⟨x, y⟩

def findCell (g : Grid α) (address : CellAddress) : Except IndexFault Position := do
  let (x, y) ← address.numbers
  g.cellAt x y

theorem lineAt_eq_ok_iff {g : Grid α} {axis : Axis} {index : Number} {i : Nat} :
    g.lineAt axis index = .ok i ↔ index.toIndex? = some i ∧ i < g.count axis := by
  unfold lineAt
  rw [← @Number.requireIndex_eq_ok_iff (.line axis)]
  cases index.requireIndex (.line axis) with
  | error fault => simp [bind, Except.bind]
  | ok j => by_cases h : j < g.count axis <;> simp [bind, Except.bind, h, pure, Except.pure, throw,
      throwThe, MonadExceptOf.throw] <;> grind

theorem slotAt_eq_ok_iff {g : Grid α} {axis : Axis} {index : Number} {i : Nat} :
    g.slotAt axis index = .ok i ↔ index.toIndex? = some i ∧ i ≤ g.count axis := by
  unfold slotAt
  rw [← @Number.requireIndex_eq_ok_iff (.line axis)]
  cases index.requireIndex (.line axis) with
  | error fault => simp [bind, Except.bind]
  | ok j => by_cases h : j ≤ g.count axis <;> simp [bind, Except.bind, h, pure, Except.pure, throw,
      throwThe, MonadExceptOf.throw] <;> grind

end Grid

end ElasticGrid
