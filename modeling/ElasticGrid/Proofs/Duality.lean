import ElasticGrid.Proofs.Flips
import ElasticGrid.Proofs.Records
import ElasticGrid.Proofs.Runs
import ElasticGrid.Value

/-!
# Rows and columns are alike

An operation on the rows of a grid and its counterpart on the columns of the flipped
grid come to the same: they give the same cells back, are refused alike, leave grids
that are flips of each other and records that tell the same with rows and columns
exchanged. `crossed` is the outcome as seen on the flipped grid.
-/

namespace ElasticGrid

variable {α β γ : Type} {axis : Axis}

def Role.cross : Role → Role
  | coordinate axis => coordinate axis.cross
  | line axis => line axis.cross
  | lineCount axis => lineCount axis.cross
  | role => role

namespace IndexFault

def cross : IndexFault → IndexFault
  | notAnIndex role number => notAnIndex role.cross number
  | noSuchLine axis index total => noSuchLine axis.cross index total
  | noSuchSlot axis index total => noSuchSlot axis.cross index total
  | flatSize columns rows => flatSize rows columns
  | emptyLine axis position => emptyLine axis.cross position
  | reversedSpan start stop => reversedSpan start stop
  | reversedRegion axis start stop => reversedRegion axis.cross start stop

@[simp] theorem index_cross (fault : IndexFault) : fault.cross.index = fault.index := by
  cases fault <;> rfl

@[simp] theorem limit_cross (fault : IndexFault) : fault.cross.limit = fault.limit := by
  cases fault <;> rfl

end IndexFault

theorem mapError_bind (x : Except IndexFault β) (next : β → Except IndexFault γ)
    (f : IndexFault → IndexFault) :
    (x >>= next).mapError f = x.mapError f >>= fun b => (next b).mapError f := by
  cases x <;> rfl

theorem Number.requireIndex_line_cross (number : Number) (axis : Axis) :
    number.requireIndex (.line axis.cross) =
      (number.requireIndex (.line axis)).mapError IndexFault.cross := by
  unfold requireIndex
  split <;> rfl

def Draft.cross (d : Draft α) : Draft α := ⟨d.grid.flip, d.events.map Event.cross⟩

namespace Editing

/-- An outcome as seen on the flipped grid. -/
def crossed (outcome : Except IndexFault β × Draft α) : Except IndexFault β × Draft α :=
  (outcome.1.mapError IndexFault.cross, outcome.2.cross)

theorem attempt_crossed {found found' : Except IndexFault β} {next next' : β → γ × Draft α}
    {d d' : Draft α} (hd : d' = d.cross) (hfound : found' = found.mapError IndexFault.cross)
    (hnext : ∀ b, found = .ok b → next' b = ((next b).1, (next b).2.cross)) :
    attempt found' next' d' = crossed (attempt found next d) := by
  subst hfound
  cases found with
  | error fault => exact Prod.ext rfl hd
  | ok b =>
    show (Except.ok (next' b).1, (next' b).2) = _
    rw [hnext b rfl]; rfl

end Editing

namespace Grid

variable {g : Grid α} {i n : Nat}

theorem Rectangular.lineAt_flip (hg : g.Rectangular) (axis : Axis) (index : Number) :
    g.flip.lineAt axis.cross index = (g.lineAt axis index).mapError IndexFault.cross := by
  simp only [lineAt, index.requireIndex_line_cross, hg.count_flip, mapError_bind]
  congr 1; funext i
  split <;> rfl

theorem Rectangular.slotAt_flip (hg : g.Rectangular) (axis : Axis) (index : Number) :
    g.flip.slotAt axis.cross index = (g.slotAt axis index).mapError IndexFault.cross := by
  simp only [slotAt, index.requireIndex_line_cross, hg.count_flip, mapError_bind]
  congr 1; funext i
  split <;> rfl

theorem Rectangular.findLine_flip (hg : g.Rectangular) (axis : Axis) (line : LineAddress) :
    g.flip.findLine axis.cross line = (g.findLine axis line).mapError IndexFault.cross := by
  cases line with
  | nth index => exact hg.lineAt_flip axis index
  | first => exact hg.lineAt_flip axis _
  | last =>
    simp only [findLine, hg.count_flip]
    split <;> rfl

theorem Rectangular.findSlot_flip (hg : g.Rectangular) (axis : Axis) (slot : SlotAddress) :
    g.flip.findSlot axis.cross slot = (g.findSlot axis slot).mapError IndexFault.cross := by
  cases slot with
  | before index => exact hg.slotAt_flip axis index
  | after index =>
    simp only [findSlot, index.requireIndex_line_cross, hg.slotAt_flip, mapError_bind]
  | atEnd => simp only [findSlot, hg.count_flip]; rfl

theorem Rectangular.findLines_flip (hg : g.Rectangular) (axis : Axis) (i j : Number) :
    g.flip.findLines axis.cross i j = (g.findLines axis i j).mapError IndexFault.cross := by
  simp only [findLines, hg.lineAt_flip, mapError_bind]
  rfl

/-! ## Events -/

theorem Rectangular.growth_flip (hg : g.Rectangular) (hne : 0 < g.columnCount) (axis : Axis)
    (n : Nat) : g.flip.growth axis.cross n = (g.growth axis n).map Event.cross := by
  rw [growth, growth, hg.count_flip, ← hg.flip_stretch hne, (hg.stretch hne axis n).size_flip]
  split <;> rfl

theorem Rectangular.insertion_flip (hg : g.Rectangular) (axis : Axis) (n : Nat) :
    g.flip.insertion axis.cross n = (g.insertion axis n).map Event.cross := by
  rw [insertion, insertion, hg.isEmpty_flip]
  split
  · rfl
  · next he =>
    rw [isEmpty_iff_columnCount] at he
    exact hg.growth_flip (by omega) axis.cross n

theorem Rectangular.collapse_flip (hg : g.Rectangular) (axis : Axis) :
    g.flip.collapse axis.cross = (g.collapse axis).map Event.cross := by
  rw [collapse, collapse, hg.isEmpty_flip]
  split <;> rfl

theorem Rectangular.replacement_flip (hg : g.Rectangular) (hi : i < g.count axis)
    (values : List (Option α)) :
    g.flip.replacement axis.cross i values = (g.replacement axis i values).map Event.cross := by
  have hslot := hg.le_count_erase hi
  have herase := hg.erase hi
  have hgrowth := (herase.insert hslot values).growth_flip
    (herase.columnCount_insert_pos hslot values) axis.cross (g.count axis.cross)
  rw [replacement, replacement, ← hg.flip_erase hi, herase.collapse_flip, herase.insertion_flip,
    ← herase.flip_insert hslot, hg.count_flip, hgrowth, List.map_append, List.map_append]

theorem Rectangular.packCollapse_flip (hg : g.Rectangular) (axis : Axis) (wanted : Bool) :
    g.flip.packCollapse axis.cross wanted = (g.packCollapse axis wanted).map Event.cross := by
  rw [packCollapse, packCollapse, hg.isEmpty_flip, ← hg.flip_packIf,
    (hg.packIf axis wanted).collapse_flip]
  split <;> rfl

theorem Rectangular.packLoss_flip (hg : g.Rectangular) (axis : Axis) (wanted : Bool) :
    g.flip.packLoss axis.cross wanted = g.packLoss axis wanted := by
  rw [packLoss, packLoss, ← hg.flip_packIf, hg.count_flip, (hg.packIf axis wanted).count_flip]

theorem packIf_false (g : Grid α) (axis : Axis) : g.packIf axis false = g := rfl

theorem packCollapse_false (g : Grid α) (axis : Axis) : g.packCollapse axis false = [] := by
  rw [packCollapse, packIf_false, collapse]
  split <;> rfl

theorem packLoss_false (g : Grid α) (axis : Axis) : g.packLoss axis false = 0 :=
  Nat.sub_self _

/-- Packing notes the same events if it packs one axis only. With both of them wanted, rows
are packed first on either grid, and a grid without values collapses along another axis. -/
theorem Rectangular.packing_flip (hg : g.Rectangular) {rows columns : Bool}
    (hone : (rows && columns) = false) :
    g.flip.packing columns rows = (g.packing rows columns).map Event.cross := by
  have hcollapse := fun axis => hg.packCollapse_flip axis true
  have hloss := fun axis => hg.packLoss_flip axis true
  cases rows <;> cases columns
  · simp only [packing, packIf_false, packCollapse_false, packLoss_false]; rfl
  · have hc : g.flip.packCollapse .row true = _ := hcollapse .column
    have hl : g.flip.packLoss .row true = _ := hloss .column
    simp only [packing, packIf_false, packCollapse_false, packLoss_false, hc, hl,
      List.nil_append, List.append_nil, List.map_append, Nat.lt_irrefl, or_false, false_or]
    split <;> rfl
  · have hc : g.flip.packCollapse .column true = _ := hcollapse .row
    have hl : g.flip.packLoss .column true = _ := hloss .row
    simp only [packing, packIf_false, packCollapse_false, packLoss_false, hc, hl,
      List.nil_append, List.append_nil, List.map_append, Nat.lt_irrefl, or_false, false_or]
    split <;> rfl
  · cases hone

end Grid

/-! ## Sources, edits and queries -/

namespace Source

open Editing

theorem requireEven_cross (axis : Axis) (lines : List (List (Option α))) :
    requireEven axis.cross lines = (requireEven axis lines).mapError IndexFault.cross := by
  unfold requireEven
  split
  · split <;> rfl
  · rfl

theorem appendLine_cross {d : Draft α} (hd : d.grid.Rectangular) (axis : Axis)
    (line : List (Option α)) :
    appendLine axis.cross d.cross line = (appendLine axis d line).cross := by
  unfold appendLine
  split
  · rfl
  · simp only [Draft.cross, hd.count_flip, hd.insertion_flip, List.map_append,
      hd.flip_insert (Nat.le_refl _)]

theorem foldl_appendLine_cross {d : Draft α} (hd : d.grid.Rectangular) (axis : Axis)
    (lines : List (List (Option α))) :
    lines.foldl (appendLine axis.cross) d.cross = (lines.foldl (appendLine axis) d).cross := by
  induction lines generalizing d with
  | nil => rfl
  | cons line lines ih =>
    rw [List.foldl_cons, List.foldl_cons, appendLine_cross hd]
    exact ih (rectangular_appendLine hd axis line)

/-- A list of rows makes the flip of what the same list of columns makes. -/
theorem run_ofLines_cross (axis : Axis) (lines : List (List (Option α))) :
    (ofLines axis.cross lines).run = crossed (ofLines axis lines).run := by
  rw [run_ofLines, run_ofLines]
  refine attempt_crossed rfl (requireEven_cross axis lines) fun _ _ => ?_
  exact Prod.ext rfl
    (foldl_appendLine_cross (d := ⟨.empty, []⟩) Grid.rectangular_empty axis lines)

end Source

namespace Edit

open Editing

variable {g : Grid α}

/-- An edit of the lines along one axis and the same edit of the lines along the other. -/
inductive Dual : Edit α → Edit α → Prop where
  | insert (axis : Axis) (slot : SlotAddress) (values : List (Option α)) :
    Dual (.insert axis slot values) (.insert axis.cross slot values)
  | remove (axis : Axis) (line : LineAddress) : Dual (.remove axis line) (.remove axis.cross line)
  | replace (axis : Axis) (index : Number) (values : List (Option α)) :
    Dual (.replace axis index values) (.replace axis.cross index values)
  | swapLines (axis : Axis) (i j : Number) : Dual (.swapLines axis i j) (.swapLines axis.cross i j)
  | reverse (axis : Axis) : Dual (.reverse axis) (.reverse axis.cross)
  | pack {rows columns : Bool} (hone : (rows && columns) = false) :
    Dual (.pack rows columns) (.pack columns rows)

theorem Dual.run_flip {edit dual : Edit α} (hdual : edit.Dual dual) (hg : g.Rectangular) :
    dual.run g.flip = crossed (edit.run g) := by
  cases hdual with
  | insert axis slot values =>
    rw [run_insert hg, run_insert hg.flip]
    refine attempt_crossed rfl (hg.findSlot_flip axis slot) fun i hi => ?_
    simp only [Draft.cross, hg.flip_insert (Grid.findSlot_le hi), hg.insertion_flip]
  | remove axis line =>
    rw [run_remove, run_remove]
    refine attempt_crossed rfl (hg.findLine_flip axis line) fun i hi => ?_
    have hlt := Grid.findLine_lt hi
    simp only [Draft.cross, hg.line_flip hlt, ← hg.flip_erase hlt, (hg.erase hlt).collapse_flip]
  | replace axis index values =>
    rw [run_replace hg, run_replace hg.flip]
    refine attempt_crossed rfl (hg.lineAt_flip axis index) fun i hi => ?_
    have hlt := (Grid.lineAt_eq_ok_iff.1 hi).2
    simp only [Draft.cross, hg.line_flip hlt, hg.flip_replace hlt, hg.replacement_flip hlt]
  | swapLines axis i j =>
    rw [run_swapLines, run_swapLines]
    refine attempt_crossed rfl (hg.findLines_flip axis i j) fun ij hij => ?_
    obtain ⟨hi, hj⟩ := Grid.findLines_lt hij
    simp only [Draft.cross, hg.flip_swap hi hj, List.map_nil]
  | reverse axis => rw [run_reverse, run_reverse, ← hg.flip_reverse]; rfl
  | pack hone =>
    rw [run_pack, run_pack, hg.packing_flip hone, ← hg.flip_packIf_packIf]; rfl

end Edit

theorem Query.answer_line_flip [Content α] {g : Grid α} (hg : g.Rectangular) (axis : Axis)
    (address : LineAddress) :
    (Query.line axis.cross address).answer g.flip =
      ((Query.line axis address).answer g).mapError IndexFault.cross := by
  simp only [answer, hg.findLine_flip]
  cases hi : g.findLine axis address with
  | error fault => rfl
  | ok i =>
    have hline := hg.line_flip (Grid.findLine_lt hi)
    exact congrArg (fun cells => Except.ok (View.line cells)) hline

namespace Grid

/-- **Rows and columns are alike.** On a reachable grid and on its flip, dual edits have
crossed outcomes and lines read the same; packing both axes leads to flipped grids, and so
does building from the same list of lines. What is crossed keeps index and limit of a fault,
and a journal keeps crossed records of crossed events. -/
theorem Reachable.duality [Content α] {g : Grid α} (hg : g.Reachable) :
    g.flip.flip = g ∧
    (∀ edit dual : Edit α, edit.Dual dual → dual.run g.flip = Editing.crossed (edit.run g)) ∧
    (∀ axis address, (Query.line axis.cross address).answer g.flip =
      ((Query.line axis address).answer g).mapError IndexFault.cross) ∧
    (∀ axis, (Query.lines axis.cross).answer g.flip = (Query.lines axis).answer g) ∧
    (∀ rows columns, ((Edit.pack columns rows).run g.flip).1 = ((Edit.pack rows columns).run g).1 ∧
      ((Edit.pack columns rows).run g.flip).2.grid =
        ((Edit.pack rows columns).run g).2.grid.flip) ∧
    (∀ axis lines, (Source.ofLines axis.cross lines : Source α).run =
      Editing.crossed (Source.ofLines axis lines).run) ∧
    (∀ fault : IndexFault, fault.cross.index = fault.index ∧ fault.cross.limit = fault.limit) ∧
    ∀ (sheet : Sheet α) (events : List Event),
      List.Forall₂ Record.Crossed (sheet.records events)
        (sheet.records (events.map Event.cross)) := by
  have hr := hg.rectangular
  refine ⟨hr.flip_flip, fun edit dual hdual => hdual.run_flip hr, Query.answer_line_flip hr,
    fun axis => ?_, fun rows columns => ?_, Source.run_ofLines_cross,
    fun fault => ⟨fault.index_cross, fault.limit_cross⟩, Sheet.records_crossed⟩
  · simp only [Query.answer, hr.lines_flip]
  · rw [Edit.run_pack, Edit.run_pack]
    exact ⟨rfl, (hr.flip_packIf_packIf rows columns).symm⟩

/-- A row of three cells for a grid of one column, and the same cells as a column of its flip. -/
theorem duality_of_wide_row :
    let g : Grid Value := (Source.ofLines .row [[some (.whole 1)], [none]]).run.2.grid
    let values := [none, some (.whole 2), none]
    g.Reachable ∧
      (Edit.insert .column .atEnd values).run g.flip =
        Editing.crossed ((Edit.insert .row .atEnd values).run g) ∧
      ((Edit.insert .row .atEnd values).run g).2.events = [.stretched .column 2 ⟨3, 2⟩] := by
  intro g values
  have hg : g.Reachable := .built rfl
  exact ⟨hg, hg.duality.2.1 _ _ (.insert .row .atEnd values), rfl⟩

end Grid

end ElasticGrid
