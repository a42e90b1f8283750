import ElasticGrid.Edit
import ElasticGrid.Proofs.Packing

/-!
# What an edit comes to

An edit is a sequence of steps on a draft. Here each edit of a rectangular grid is
brought to one form, `attempt`: something is looked up in the grid as it was, and if
that is refused, the draft is the one at the start; if not, the result, the grid and
the events follow from what was found, without any further check.
-/

namespace ElasticGrid

variable {α β γ : Type}

theorem bind_eq_ok_iff {ε : Type} {found : Except ε β} {next : β → Except ε γ} {c : γ} :
    found >>= next = .ok c ↔ ∃ b, found = .ok b ∧ next b = .ok c := by
  cases found with
  | error fault => exact ⟨fun h => (nomatch h), fun ⟨_, h, _⟩ => (nomatch h)⟩
  | ok b => exact ⟨fun h => ⟨b, rfl, h⟩, fun ⟨_, hb, h⟩ => Except.ok.inj hb ▸ h⟩

theorem bind_eq_error_iff {ε : Type} {found : Except ε β} {next : β → Except ε γ} {fault : ε} :
    found >>= next = .error fault ↔
      found = .error fault ∨ ∃ b, found = .ok b ∧ next b = .error fault := by
  cases found with
  | error told =>
    exact ⟨fun h => .inl (congrArg _ (Except.error.inj h)), fun h => h.elim
      (fun h => congrArg _ (Except.error.inj h)) fun ⟨_, hb, _⟩ => (nomatch hb)⟩
  | ok b =>
    exact ⟨fun h => .inr ⟨b, rfl, h⟩, fun h => h.elim (fun h => (nomatch h))
      fun ⟨_, hb, h⟩ => Except.ok.inj hb ▸ h⟩

namespace Grid

variable {g : Grid α} {axis : Axis} {i n : Nat}

theorem Rectangular.stretch_of_le (hg : g.Rectangular) (hn : n ≤ g.count axis) :
    g.stretch axis n = g := by
  cases axis
  · exact congrArg Grid.mk (rightpad_of_le hn)
  · have hmap : g.columns.map (fun column => column.rightpad n none) = g.columns.map id :=
      List.map_congr_left fun column hm => rightpad_of_le (by rw [(hg column hm).1]; exact hn)
    rw [List.map_id] at hmap
    exact congrArg Grid.mk hmap

/-- A line that is put in makes the grid as long as it needs, so a grid may as well be
stretched before. -/
theorem Rectangular.insert_stretch (hg : g.Rectangular) (hne : 0 < g.columnCount)
    (hi : i ≤ g.count axis) (values : List (Option α)) :
    (g.stretch axis.cross values.length).insert axis i values = g.insert axis i values := by
  have hs := hg.hasShape
  cases axis
  · have hw := hs.heighten hne values.length
    refine (hw.insertColumn hi values).ext ?_ fun x _ y _ => ?_
    · have := hs.insertColumn hi values
      rwa [show max g.rowCount (max values.length 1) =
        max (max values.length g.rowCount) (max values.length 1) by omega] at this
    · show (insertColumn i values (heighten _ g)).cell x y = (insertColumn i values g).cell x y
      rw [cell_insertColumn g hi, cell_insertColumn _ (by rwa [hw.columnCount])]
      simp only [cell_heighten]
  · have hw := hs.widen hne values.length
    refine (hw.insertRow hi values).ext ?_ fun x _ y _ => ?_
    · have := hs.insertRow hi values
      rwa [show max g.columnCount (max values.length 1) =
        max (max values.length g.columnCount) (max values.length 1) by omega] at this
    · show (insertRow i values (widen _ g)).cell x y = (insertRow i values g).cell x y
      rw [hs.cell_insertRow hi, hw.cell_insertRow hi]
      simp only [cell_widen]

theorem findSlot_le {slot : SlotAddress} (h : g.findSlot axis slot = .ok i) :
    i ≤ g.count axis := by
  cases slot with
  | before index => exact (slotAt_eq_ok_iff.1 h).2
  | after index =>
    obtain ⟨_, -, h⟩ := bind_eq_ok_iff.1 h
    exact (slotAt_eq_ok_iff.1 h).2
  | atEnd => cases h; exact Nat.le_refl _

theorem findLine_lt {line : LineAddress} (h : g.findLine axis line = .ok i) : i < g.count axis := by
  cases line with
  | nth index => exact (lineAt_eq_ok_iff.1 h).2
  | first => exact (lineAt_eq_ok_iff.1 h).2
  | last =>
    simp only [findLine] at h
    split at h
    · cases h
    · next n hn => cases h; omega

theorem cellAt_lt {x y : Number} {p : Position} (h : g.cellAt x y = .ok p) :
    p.x < g.columnCount ∧ p.y < g.rowCount := by
  obtain ⟨x, hx, h⟩ := bind_eq_ok_iff.1 h
  obtain ⟨y, hy, h⟩ := bind_eq_ok_iff.1 h
  cases h
  exact ⟨(lineAt_eq_ok_iff.1 hx).2, (lineAt_eq_ok_iff.1 hy).2⟩

theorem findCell_lt {address : CellAddress} {p : Position} (h : g.findCell address = .ok p) :
    p.x < g.columnCount ∧ p.y < g.rowCount := by
  obtain ⟨_, -, h⟩ := bind_eq_ok_iff.1 h
  exact cellAt_lt h

theorem Rectangular.length_line (hg : g.Rectangular) (hi : i < g.count axis) :
    (g.line axis i).length = g.count axis.cross := by
  cases axis
  · exact hg.hasShape.length_column hi
  · exact length_row g i

theorem Rectangular.count_erase (hg : g.Rectangular) (hi : i < g.count axis) :
    (g.erase axis i).count axis = g.count axis - 1 := by
  cases axis
  · exact (hg.hasShape.eraseColumn hi).columnCount
  · exact (hg.hasShape.eraseRow hi).rowCount

/-- The index of a line that was taken out is a slot for a new one. -/
theorem Rectangular.le_count_erase (hg : g.Rectangular) (hi : i < g.count axis) :
    i ≤ (g.erase axis i).count axis := by
  rw [hg.count_erase hi]; omega

theorem Rectangular.slotAt_erase (hg : g.Rectangular) {index : Number}
    (h : g.lineAt axis index = .ok i) : (g.erase axis i).slotAt axis index = .ok i := by
  obtain ⟨hindex, hi⟩ := lineAt_eq_ok_iff.1 h
  exact slotAt_eq_ok_iff.2 ⟨hindex, hg.le_count_erase hi⟩

/-- The grid with one line replaced: the old line goes, the new one comes to its place, and
what the grid lost of its extent is filled up. -/
def replace (axis : Axis) (i : Nat) (values : List (Option α)) (g : Grid α) : Grid α :=
  ((g.erase axis i).insert axis i values).stretch axis.cross (g.count axis.cross)

def packIf (axis : Axis) (wanted : Bool) (g : Grid α) : Grid α :=
  if wanted then g.pack axis else g

theorem Rectangular.packIf (hg : g.Rectangular) (axis : Axis) (wanted : Bool) :
    (g.packIf axis wanted).Rectangular := by
  cases wanted
  · exact hg
  · exact hg.pack axis

theorem Rectangular.cell_packIf (hg : g.Rectangular) (axis : Axis) (wanted : Bool) (x y : Nat) :
    (g.packIf axis wanted).cell x y = g.cell x y := by
  cases wanted
  · rfl
  · cases axis
    · exact cell_packColumns g x y
    · exact hg.hasShape.cell_packRows x y

theorem Rectangular.columnCount_insert_pos (hg : g.Rectangular) (hi : i ≤ g.count axis)
    (values : List (Option α)) : 0 < (g.insert axis i values).columnCount := by
  cases axis
  · have hcount := (hg.hasShape.insertColumn hi values).columnCount
    exact hcount ▸ Nat.succ_pos _
  · have hcount := (hg.hasShape.insertRow hi values).columnCount
    exact hcount ▸ (by omega)

theorem Rectangular.replace (hg : g.Rectangular) (hi : i < g.count axis)
    (values : List (Option α)) : (g.replace axis i values).Rectangular := by
  have hslot := hg.le_count_erase hi
  have herase := hg.erase hi
  exact (herase.insert hslot values).stretch (herase.columnCount_insert_pos hslot values) _ _

/-- The cells to swap: both addresses are read before the grid is looked at. -/
def findPair (g : Grid α) (a b : CellAddress) : Except IndexFault (Position × Position) := do
  let (x1, y1) ← a.numbers
  let (x2, y2) ← b.numbers
  let p ← g.cellAt x1 y1
  let q ← g.cellAt x2 y2
  return (p, q)

theorem findPair_cases (g : Grid α) (a b : CellAddress) :
    (∃ p q, g.findPair a b = .ok (p, q) ∧ g.findCell a = .ok p ∧ g.findCell b = .ok q) ∨
      ∃ fault, g.findPair a b = .error fault ∧
        (g.findCell a = .error fault ∨ g.findCell b = .error fault) := by
  simp only [findPair, findCell, bind, Except.bind]
  cases a.numbers with
  | error fault => exact .inr ⟨fault, rfl, .inl rfl⟩
  | ok a =>
    cases b.numbers with
    | error fault => exact .inr ⟨fault, rfl, .inr rfl⟩
    | ok b =>
      simp only []
      cases g.cellAt a.1 a.2 with
      | error fault => exact .inr ⟨fault, rfl, .inl rfl⟩
      | ok p =>
        simp only []
        cases g.cellAt b.1 b.2 with
        | error fault => exact .inr ⟨fault, rfl, .inr rfl⟩
        | ok q => exact .inl ⟨p, q, rfl, rfl, rfl⟩

theorem findPair_lt {a b : CellAddress} {pq : Position × Position}
    (h : g.findPair a b = .ok pq) :
    (pq.1.x < g.columnCount ∧ pq.1.y < g.rowCount) ∧
      pq.2.x < g.columnCount ∧ pq.2.y < g.rowCount := by
  rcases g.findPair_cases a b with ⟨p, q, hfound, ha, hb⟩ | ⟨fault, hfound, -⟩
  · obtain rfl : (p, q) = pq := Except.ok.inj (hfound.symm.trans h)
    exact ⟨findCell_lt ha, findCell_lt hb⟩
  · rw [hfound] at h; cases h

def findLines (g : Grid α) (axis : Axis) (i j : Number) : Except IndexFault (Nat × Nat) := do
  let i ← g.lineAt axis i
  let j ← g.lineAt axis j
  return (i, j)

theorem findLines_lt {index index' : Number} {ij : Nat × Nat}
    (h : g.findLines axis index index' = .ok ij) : ij.1 < g.count axis ∧ ij.2 < g.count axis := by
  obtain ⟨i, hi, h⟩ := bind_eq_ok_iff.1 h
  obtain ⟨j, hj, h⟩ := bind_eq_ok_iff.1 h
  cases h
  exact ⟨(lineAt_eq_ok_iff.1 hi).2, (lineAt_eq_ok_iff.1 hj).2⟩

def growth (g : Grid α) (axis : Axis) (n : Nat) : List Event :=
  if g.count axis < n then [.stretched axis (n - g.count axis) (g.stretch axis n).size] else []

/-- The event of a line of `n` cells that goes in. -/
def insertion (g : Grid α) (axis : Axis) (n : Nat) : List Event :=
  if g.isEmpty then [] else g.growth axis.cross n

def collapse (g : Grid α) (axis : Axis) : List Event := if g.isEmpty then [.collapsed axis] else []

/-- The events of replacing a line by one of `n` cells: those of its three changes. -/
def replacement (g : Grid α) (axis : Axis) (i : Nat) (values : List (Option α)) : List Event :=
  (g.erase axis i).collapse axis ++ (g.erase axis i).insertion axis values.length ++
    ((g.erase axis i).insert axis i values).growth axis.cross (g.count axis.cross)

def packCollapse (g : Grid α) (axis : Axis) (wanted : Bool) : List Event :=
  if g.isEmpty then [] else (g.packIf axis wanted).collapse axis

/-- The number of lines that packing takes away. -/
def packLoss (g : Grid α) (axis : Axis) (wanted : Bool) : Nat :=
  g.count axis - (g.packIf axis wanted).count axis

/-- The events of packing rows, then columns, as far as wanted. -/
def packing (g : Grid α) (rows columns : Bool) : List Event :=
  g.packCollapse .row rows ++ (g.packIf .row rows).packCollapse .column columns ++
    if 0 < g.packLoss .row rows ∨ 0 < (g.packIf .row rows).packLoss .column columns then
      [.packed (g.packLoss .row rows) ((g.packIf .row rows).packLoss .column columns)]
    else []

def flipping (g : Grid α) : List Event := if g.isEmpty then [] else [.flipped g.size]

end Grid

namespace Editing

variable {axis : Axis} {d : Draft α}

/-! ## Steps -/

/-- Something is looked up first; a refusal leaves the draft as it is. -/
def attempt (found : Except IndexFault β) (next : β → γ × Draft α) (d : Draft α) :
    Except IndexFault γ × Draft α :=
  match found with
  | .ok b => (.ok (next b).1, (next b).2)
  | .error fault => (.error fault, d)

theorem outcome_growTo (hd : d.grid.Rectangular) (n : Nat) :
    outcome (growTo axis n) d =
      (.ok (), ⟨d.grid.stretch axis n, d.events ++ d.grid.growth axis n⟩) := by
  rw [growTo, outcome_bind, outcome_grid]
  by_cases hn : d.grid.count axis < n
  · simp [hn, outcome_bind, Grid.growth]
  · simp [hn, Grid.growth, hd.stretch_of_le (Nat.le_of_not_lt hn)]

theorem outcome_insertLine (hd : d.grid.Rectangular) (slot : SlotAddress)
    (values : List (Option α)) :
    outcome (insertLine axis slot values) d =
      attempt (d.grid.findSlot axis slot) (fun i =>
        ((), ⟨d.grid.insert axis i values, d.events ++ d.grid.insertion axis values.length⟩)) d := by
  rw [insertLine, outcome_bind, outcome_grid]
  simp only [outcome_bind, outcome_require]
  cases hi : d.grid.findSlot axis slot with
  | error fault => rfl
  | ok i =>
    have hle := Grid.findSlot_le hi
    by_cases he : d.grid.isEmpty
    · simp [he, attempt, Grid.insertion]
    · have hne : 0 < d.grid.columnCount := by
        rw [Grid.isEmpty_iff_columnCount] at he; omega
      simp [he, attempt, Grid.insertion, outcome_bind, outcome_growTo hd,
        hd.insert_stretch hne hle]

theorem outcome_removeLine (line : LineAddress) :
    outcome (removeLine axis line) d =
      attempt (d.grid.findLine axis line) (fun i =>
        (d.grid.line axis i,
          ⟨d.grid.erase axis i, d.events ++ (d.grid.erase axis i).collapse axis⟩)) d := by
  rw [removeLine, outcome_bind, outcome_grid]
  simp only [outcome_bind, outcome_require]
  cases d.grid.findLine axis line with
  | error fault => rfl
  | ok i =>
    by_cases he : (d.grid.erase axis i).isEmpty <;>
      simp [he, attempt, Grid.collapse, outcome_map, Except.map]

theorem outcome_replaceLine (hd : d.grid.Rectangular) (index : Number)
    (values : List (Option α)) :
    outcome (replaceLine axis index values) d =
      attempt (d.grid.lineAt axis index) (fun i =>
        (d.grid.line axis i,
          ⟨d.grid.replace axis i values, d.events ++ d.grid.replacement axis i values⟩)) d := by
  simp only [replaceLine, outcome_bind, outcome_removeLine, Grid.findLine]
  cases hi : d.grid.lineAt axis index with
  | error fault => rfl
  | ok i =>
    have hlt := (Grid.lineAt_eq_ok_iff.1 hi).2
    have hslot := hd.le_count_erase hlt
    have herase := hd.erase hlt
    simp only [attempt]
    rw [outcome_insertLine herase]
    simp only [Grid.findSlot, hd.slotAt_erase hi, attempt]
    rw [outcome_growTo (herase.insert hslot values)]
    simp [hd.length_line hlt, Grid.replace, Grid.replacement]

theorem outcome_packAxis_bind (axis : Axis) (wanted : Bool) (next : Nat → Editing α β)
    (d : Draft α) :
    outcome (if wanted then packAxis axis >>= next else pure 0 >>= next) d =
      outcome (next (d.grid.packLoss axis wanted))
        ⟨d.grid.packIf axis wanted, d.events ++ d.grid.packCollapse axis wanted⟩ := by
  cases wanted
  · by_cases he : d.grid.isEmpty <;>
      simp [Grid.packLoss, Grid.packIf, Grid.packCollapse, Grid.collapse, he]
  · by_cases he : d.grid.isEmpty <;> by_cases hp : (d.grid.pack axis).isEmpty <;>
      simp [packAxis, outcome_bind, Grid.packLoss, Grid.packIf, Grid.packCollapse, Grid.collapse,
        he, hp]

theorem outcome_pack (rows columns : Bool) (d : Draft α) :
    outcome (pack rows columns) d =
      (.ok (), ⟨(d.grid.packIf .row rows).packIf .column columns,
        d.events ++ d.grid.packing rows columns⟩) := by
  refine (outcome_packAxis_bind .row rows _ d).trans ?_
  refine (outcome_packAxis_bind .column columns _ _).trans ?_
  by_cases hl : 0 < d.grid.packLoss .row rows ∨
      0 < (d.grid.packIf .row rows).packLoss .column columns <;>
    simp [Grid.packing, hl]

theorem outcome_flip (d : Draft α) :
    outcome flip d = (.ok (), ⟨d.grid.flip, d.events ++ d.grid.flip.flipping⟩) := by
  rw [flip, outcome_bind, outcome_grid]
  by_cases he : d.grid.flip.isEmpty <;> simp [outcome_bind, he, Grid.flipping]

end Editing

namespace Edit

open Editing

variable {g : Grid α}

/-! ## Edits -/

theorem run_setCell (g : Grid α) (address : CellAddress) (value : Option α) :
    (setCell address value).run g =
      attempt (g.findCell address) (fun p =>
        (.cell (g.cell p.x p.y), ⟨g.setCell p.x p.y value, []⟩)) ⟨g, []⟩ := by
  simp only [run, perform, outcome_map, Editing.setCell, outcome_bind, outcome_grid,
    outcome_require]
  cases g.findCell address <;> rfl

theorem run_insert (hg : g.Rectangular) (axis : Axis) (slot : SlotAddress)
    (values : List (Option α)) :
    (insert axis slot values).run g =
      attempt (g.findSlot axis slot) (fun i =>
        (.nothing, ⟨g.insert axis i values, g.insertion axis values.length⟩)) ⟨g, []⟩ := by
  rw [run, perform, outcome_bind, outcome_insertLine hg]
  cases g.findSlot axis slot <;> rfl

theorem run_remove (g : Grid α) (axis : Axis) (line : LineAddress) :
    (remove axis line).run g =
      attempt (g.findLine axis line) (fun i =>
        (.line (g.line axis i), ⟨g.erase axis i, (g.erase axis i).collapse axis⟩)) ⟨g, []⟩ := by
  rw [run, perform, outcome_map, outcome_removeLine]
  cases g.findLine axis line <;> rfl

theorem run_replace (hg : g.Rectangular) (axis : Axis) (index : Number)
    (values : List (Option α)) :
    (replace axis index values).run g =
      attempt (g.lineAt axis index) (fun i =>
        (.line (g.line axis i), ⟨g.replace axis i values, g.replacement axis i values⟩))
        ⟨g, []⟩ := by
  rw [run, perform, outcome_map, outcome_replaceLine hg]
  cases g.lineAt axis index <;> rfl

theorem run_pack (g : Grid α) (rows columns : Bool) :
    (pack rows columns).run g =
      (.ok .nothing, ⟨(g.packIf .row rows).packIf .column columns, g.packing rows columns⟩) := by
  rw [run, perform, outcome_bind, outcome_pack]; rfl

theorem run_clear (g : Grid α) : clear.run g = (.ok .nothing, ⟨.empty, []⟩) := rfl

theorem run_reverse (g : Grid α) (axis : Axis) :
    (reverse axis).run g = (.ok .nothing, ⟨g.reverse axis, []⟩) := rfl

theorem run_flip (g : Grid α) : flip.run g = (.ok .nothing, ⟨g.flip, g.flip.flipping⟩) := by
  rw [run, perform, outcome_bind, outcome_flip]; rfl

theorem run_turn (g : Grid α) (clockwise : Bool) :
    (turn clockwise).run g =
      (.ok .nothing,
        ⟨g.flip.reverse (if clockwise then .column else .row), g.flip.flipping⟩) := by
  rw [run, perform, outcome_bind, outcome_flip]; rfl

theorem run_swapCells (g : Grid α) (a b : CellAddress) :
    (swapCells a b).run g =
      attempt (g.findPair a b) (fun pq => (.nothing, ⟨g.swapCells pq.1 pq.2, []⟩)) ⟨g, []⟩ := by
  simp only [run, perform, outcome_bind, Editing.swapCells, outcome_grid, outcome_require,
    Grid.findPair]
  rcases a.numbers with _ | ⟨x1, y1⟩
  · rfl
  · rcases b.numbers with _ | ⟨x2, y2⟩
    · rfl
    · simp only [bind, Except.bind]
      cases g.cellAt x1 y1 with
      | error fault => rfl
      | ok p => cases g.cellAt x2 y2 <;> rfl

theorem run_swapLines (g : Grid α) (axis : Axis) (i j : Number) :
    (swapLines axis i j).run g =
      attempt (g.findLines axis i j) (fun ij => (.nothing, ⟨g.swap axis ij.1 ij.2, []⟩))
        ⟨g, []⟩ := by
  simp only [run, perform, outcome_bind, Editing.swapLines, outcome_grid, outcome_require,
    Grid.findLines]
  cases g.lineAt axis i with
  | error fault => rfl
  | ok m => cases g.lineAt axis j <;> rfl

end Edit

end ElasticGrid
