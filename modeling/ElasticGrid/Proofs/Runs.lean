import ElasticGrid.Proofs.Outcome
import ElasticGrid.Workbook

/-!
# Reachable grids and runs

A grid is `Reachable` when it was built by a source that was not refused and then
edited any number of times, whatever became of the edits. Every sheet in every run of
a workbook has such a grid (`Workbook.reachable_after`), and every reachable grid is
rectangular (`Grid.Reachable.rectangular`): it holds at the start, a step keeps it,
and so a run does.
-/

namespace ElasticGrid

variable {α : Type}

namespace Source

open Editing

variable {axis : Axis} {d : Draft α}

/-- The draft with one more line at the far end; an empty line leaves no trace. -/
def appendLine (axis : Axis) (d : Draft α) (line : List (Option α)) : Draft α :=
  if line.isEmpty then d
  else ⟨d.grid.insert axis (d.grid.count axis) line,
    d.events ++ d.grid.insertion axis line.length⟩

theorem rectangular_appendLine (hd : d.grid.Rectangular) (axis : Axis) (line : List (Option α)) :
    (appendLine axis d line).grid.Rectangular := by
  unfold appendLine
  split
  · exact hd
  · exact hd.insert (Nat.le_refl _) line

theorem outcome_appendLines (hd : d.grid.Rectangular) (axis : Axis)
    (lines : List (List (Option α))) :
    outcome (appendLines axis lines) d = (.ok (), lines.foldl (appendLine axis) d) := by
  induction lines generalizing d with
  | nil => rfl
  | cons line lines ih =>
    have hfirst : outcome (do unless line.isEmpty do insertLine axis .atEnd line) d =
        (.ok (), appendLine axis d line) := by
      by_cases he : line.isEmpty
      · simp [he, appendLine]
      · simp [he, appendLine, outcome_insertLine hd, attempt, Grid.findSlot]
    show outcome ((do unless line.isEmpty do insertLine axis .atEnd line) >>=
      fun _ => appendLines axis lines) d = _
    rw [outcome_bind, hfirst]
    exact ih (rectangular_appendLine hd axis line)

theorem rectangular_foldl_appendLine (hd : d.grid.Rectangular) (axis : Axis)
    (lines : List (List (Option α))) : (lines.foldl (appendLine axis) d).grid.Rectangular := by
  induction lines generalizing d with
  | nil => exact hd
  | cons line lines ih => exact ih (rectangular_appendLine hd axis line)

theorem run_ofSize (columns rows : Number) :
    (ofSize columns rows : Source α).run =
      attempt (requireSize columns rows) (fun size => ((), ⟨.blank size.x size.y, []⟩))
        ⟨.empty, []⟩ := by
  rw [run, perform, outcome_bind, outcome_require]
  cases requireSize columns rows <;> rfl

theorem run_ofLines (axis : Axis) (lines : List (List (Option α))) :
    (ofLines axis lines).run =
      attempt (requireEven axis lines) (fun _ => ((), lines.foldl (appendLine axis) ⟨.empty, []⟩))
        ⟨.empty, []⟩ := by
  rw [run, perform, outcome_bind, outcome_require]
  cases requireEven axis lines with
  | error fault => rfl
  | ok _ => exact outcome_appendLines Grid.rectangular_empty axis lines

theorem zero_iff_of_requireSize {columns rows : Number} {size : Position}
    (h : requireSize columns rows = .ok size) : size.x = 0 ↔ size.y = 0 := by
  obtain ⟨c, -, h⟩ := bind_eq_ok_iff.1 h
  obtain ⟨r, -, h⟩ := bind_eq_ok_iff.1 h
  split at h
  · next hzero => cases h; exact hzero
  · cases h

theorem rectangular_run (source : Source α) : source.run.2.grid.Rectangular := by
  cases source with
  | empty => exact Grid.rectangular_empty
  | ofSize columns rows =>
    rw [run_ofSize]
    cases hs : requireSize columns rows with
    | error fault => exact Grid.rectangular_empty
    | ok size => exact (Grid.hasShape_blank (zero_iff_of_requireSize hs)).rectangular
  | ofLines axis lines =>
    rw [run_ofLines]
    cases requireEven axis lines with
    | error fault => exact Grid.rectangular_empty
    | ok _ => exact rectangular_foldl_appendLine Grid.rectangular_empty axis lines

end Source

/-! ## Edits -/

theorem Editing.rectangular_attempt {β γ : Type} {found : Except IndexFault β}
    {next : β → γ × Draft α} {d : Draft α} (hd : d.grid.Rectangular)
    (hnext : ∀ b, found = .ok b → (next b).2.grid.Rectangular) :
    (attempt found next d).2.grid.Rectangular := by
  cases found with
  | error fault => exact hd
  | ok b => exact hnext b rfl

open Editing in
/-- One edit keeps a grid rectangular, whether it is refused or not. -/
theorem Edit.rectangular_run {g : Grid α} (hg : g.Rectangular) (edit : Edit α) :
    (edit.run g).2.grid.Rectangular := by
  cases edit with
  | setCell address value =>
    rw [run_setCell]
    exact rectangular_attempt hg fun p _ => hg.setCell p.x p.y value
  | insert axis slot values =>
    rw [run_insert hg]
    exact rectangular_attempt hg fun i hi => hg.insert (Grid.findSlot_le hi) values
  | remove axis line =>
    rw [run_remove]
    exact rectangular_attempt hg fun i hi => hg.erase (Grid.findLine_lt hi)
  | replace axis index values =>
    rw [run_replace hg]
    exact rectangular_attempt hg fun i hi => hg.replace (Grid.lineAt_eq_ok_iff.1 hi).2 values
  | pack rows columns => rw [run_pack]; exact (hg.packIf _ _).packIf _ _
  | clear => rw [run_clear]; exact Grid.rectangular_empty
  | reverse axis => rw [run_reverse]; exact hg.reverse axis
  | flip => rw [run_flip]; exact hg.flip
  | turn clockwise => rw [run_turn]; exact hg.flip.reverse _
  | swapCells a b =>
    rw [run_swapCells]
    exact rectangular_attempt hg fun pq _ => hg.swapCells pq.1 pq.2
  | swapLines axis i j =>
    rw [run_swapLines]
    exact rectangular_attempt hg fun ij _ => hg.swap axis ij.1 ij.2

/-- Built by a source, then edited any number of times. -/
inductive Grid.Reachable : Grid α → Prop where
  | built {source : Source α} : source.run.1 = .ok () → Reachable source.run.2.grid
  | edited {g : Grid α} (edit : Edit α) : Reachable g → Reachable (edit.run g).2.grid

theorem Grid.Reachable.rectangular {g : Grid α} (hg : g.Reachable) : g.Rectangular := by
  induction hg with
  | built _ => exact Source.rectangular_run _
  | edited edit _ ih => exact Edit.rectangular_run ih edit

theorem Grid.reachable_empty : (Grid.empty : Grid α).Reachable :=
  @Reachable.built _ .empty rfl

/-- The edits are carried out one after the other and lead from `g` to `h`. Each of them gives back
what stands beside it, and all of them together leave the events. -/
inductive Grid.Trail : Grid α → List (Edit α × Returned α) → List Event → Grid α → Prop where
  | done (g : Grid α) : Trail g [] [] g
  | step {g next h : Grid α} {edit : Edit α} {returned : Returned α} {events : List Event}
    {rest : List (Edit α × Returned α)} {later : List Event} :
    edit.run g = (.ok returned, ⟨next, events⟩) → Trail next rest later h →
      Trail g ((edit, returned) :: rest) (events ++ later) h

namespace Grid.Trail

variable {g next h : Grid α} {edit : Edit α} {returned : Returned α} {events : List Event}
  {rest : List (Edit α × Returned α)}

theorem quiet (hrun : edit.run g = (.ok returned, ⟨next, []⟩)) (hrest : next.Trail rest events h) :
    g.Trail ((edit, returned) :: rest) events h :=
  .step hrun hrest

theorem last (hrun : edit.run g = (.ok returned, ⟨h, events⟩)) :
    g.Trail [(edit, returned)] events h :=
  events.append_nil ▸ .step hrun (.done h)

end Grid.Trail

/-! ## Workbooks -/

namespace Workbook

variable [Content α]

def after (book : Workbook α) (steps : List (Step α)) : Workbook α :=
  steps.foldl (fun book step => (book.perform step).2) book

def replyTo (book : Workbook α) (name : String) (action : Action α) : Reply α :=
  (book.perform ⟨name, action⟩).1

/-- Every name stands for a sheet with a reachable grid. -/
def Reached (book : Workbook α) : Prop := ∀ name, (book.sheet name).grid.Reachable

omit [Content α] in
theorem reached_empty : (empty : Workbook α).Reached := fun _ => Grid.reachable_empty

omit [Content α] in
theorem Reached.put {book : Workbook α} (hb : book.Reached) (name : String) {sheet : Sheet α}
    (hs : sheet.grid.Reachable) : (book.put name sheet).Reached := by
  intro other
  rw [sheet_put]
  split
  · exact hs
  · exact hb other

omit [Content α] in
/-- A build is refused, or it puts the grid of its source in the place of the old sheet. -/
theorem build_cases (book : Workbook α) (name : String) (source : Source α) (setup : Setup) :
    (∃ fault, book.build name source setup = book.look name (.error fault)) ∨
      ∃ sheet, setup.sheet = .ok sheet ∧ source.run.1 = .ok () ∧
        book.build name source setup = book.adopt name sheet source.run.2 (.ok .done) := by
  unfold build
  cases setup.sheet with
  | error fault => exact .inl ⟨fault, rfl⟩
  | ok sheet =>
    rcases source.run with ⟨fault | _, draft⟩
    · exact .inl ⟨.index fault, rfl⟩
    · exact .inr ⟨sheet, rfl, rfl, rfl⟩

theorem sheet_edit (book : Workbook α) (name other : String) (change : Edit α) :
    (book.perform ⟨name, .edit change⟩).2.sheet other =
      if other = name then
        { book.sheet name with grid := (change.run (book.sheet name).grid).2.grid }
      else book.sheet other := sheet_put ..

theorem Reached.perform {book : Workbook α} (hb : book.Reached) (step : Step α) :
    (book.perform step).2.Reached := by
  obtain ⟨name, action⟩ := step
  cases action with
  | build source setup =>
    show (book.build name source setup).2.Reached
    rcases book.build_cases name source setup with ⟨fault, h⟩ | ⟨sheet, -, hrun, h⟩ <;> rw [h]
    · exact hb
    · exact hb.put name (.built hrun)
  | clone target => exact hb.put target (hb name)
  | edit edit => exact hb.put name ((hb name).edited edit)
  | ask query => exact hb
  | draw overrides => exact hb
  | compare other test => exact hb

theorem Reached.after {book : Workbook α} (hb : book.Reached) (steps : List (Step α)) :
    (book.after steps).Reached := by
  induction steps generalizing book with
  | nil => exact hb
  | cons step steps ih => exact ih (hb.perform step)

/-- **Every sheet of every run is reachable.** -/
theorem reachable_after (steps : List (Step α)) (name : String) :
    ((empty.after steps).sheet name).grid.Reachable :=
  reached_empty.after steps name

theorem run_cons (step : Step α) (steps : List (Step α)) (book : Workbook α) :
    run (step :: steps) book = (book.perform step).1 :: run steps (book.perform step).2 := rfl

/-- A reply shows the sheet as the step left it. -/
theorem sheet_perform (book : Workbook α) (step : Step α) :
    (book.perform step).1.sheet = (book.perform step).2.sheet step.sheet := by
  obtain ⟨name, action⟩ := step
  cases action with
  | build source setup =>
    show (book.build name source setup).1.sheet = (book.build name source setup).2.sheet name
    rcases book.build_cases name source setup with ⟨fault, h⟩ | ⟨sheet, -, -, h⟩ <;> rw [h]
    · rfl
    · simp [adopt, sheet_put]
  | clone target => rfl
  | edit edit => simp [Workbook.perform, adopt, sheet_put]
  | ask query => rfl
  | draw overrides => rfl
  | compare other test => rfl

theorem Reached.reply {book : Workbook α} (hb : book.Reached) {steps : List (Step α)}
    {reply : Reply α} (hr : reply ∈ run steps book) : reply.sheet.grid.Reachable := by
  induction steps generalizing book with
  | nil => cases hr
  | cons step steps ih =>
    rw [run_cons, List.mem_cons] at hr
    rcases hr with rfl | hr
    · rw [sheet_perform]; exact hb.perform step step.sheet
    · exact ih (hb.perform step) hr

end Workbook

/-- What the counts of a grid tell about it. The two counts make a position as long as
they can be counted to. -/
structure Grid.WellShaped (g : Grid α) : Prop where
  length_column : ∀ column ∈ g.columns, column.length = g.rowCount
  counts : g.columnCount = 0 ∧ g.rowCount = 0 ∨ 1 ≤ g.columnCount ∧ 1 ≤ g.rowCount
  isEmpty_iff : g.isEmpty ↔ g.columnCount = 0
  columnCount_iff : g.columnCount = 0 ↔ g.rowCount = 0
  size_position : g.columnCount ≤ Number.maxIndex → g.rowCount ≤ Number.maxIndex →
    Position.ofNumbers (.ofNat g.columnCount) (.ofNat g.rowCount) = .ok g.size

theorem Grid.Rectangular.wellShaped {g : Grid α} (hg : g.Rectangular) : g.WellShaped where
  length_column _ hm := (hg _ hm).1
  counts := by have := hg.columnCount_eq_zero_iff; omega
  isEmpty_iff := g.isEmpty_iff_columnCount
  columnCount_iff := hg.columnCount_eq_zero_iff
  size_position hc hr := by
    have hx := (@Number.requireIndex_eq_ok_iff (.coordinate .column) _ _).2
      (Number.toIndex?_ofNat hc)
    have hy := (@Number.requireIndex_eq_ok_iff (.coordinate .row) _ _).2
      (Number.toIndex?_ofNat hr)
    simp only [Position.ofNumbers, hx, hy]; rfl

/-- **Grids keep their shape throughout every run**: those that the replies show and those
behind every name, and their size can always be asked for. -/
theorem Workbook.wellShaped_throughout [Content α] (steps : List (Step α)) :
    (∀ reply ∈ run steps empty, reply.sheet.grid.WellShaped) ∧
      ∀ name, ((empty.after steps).sheet name).grid.WellShaped ∧
        ((empty.after steps).perform ⟨name, .ask .size⟩).1.answer =
          .ok (.view (.size ((empty.after steps).sheet name).grid.size)) :=
  ⟨fun _ hr => (reached_empty.reply hr).rectangular.wellShaped,
    fun name => ⟨(reachable_after steps name).rectangular.wellShaped, rfl⟩⟩

end ElasticGrid
