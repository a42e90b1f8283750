import ElasticGrid.Proofs.Records
import ElasticGrid.Proofs.Runs
import ElasticGrid.Value

/-!
# Refusals

A refused step leaves no trace. An edit may be refused after it has begun to work on
its draft, so this is a fact about the edits: each looks up everything it needs before
it changes a cell. Only `replace` looks something up later, the slot for the new line,
and that slot is always there, because the old line has just left it.
-/

namespace ElasticGrid

variable {α β γ : Type}

theorem Editing.attempt_of_error {found : Except IndexFault β} {next : β → γ × Draft α}
    {d : Draft α} {fault : IndexFault} (h : (attempt found next d).1 = .error fault) :
    (attempt found next d).2 = d := by
  cases found with
  | error _ => rfl
  | ok b => cases h

namespace Edit

open Editing

variable {g : Grid α}

/-- A refused edit leaves the grid as it was and notes no event. -/
theorem draft_of_error (hg : g.Rectangular) {edit : Edit α} {fault : IndexFault}
    (h : (edit.run g).1 = .error fault) : (edit.run g).2 = ⟨g, []⟩ := by
  cases edit with
  | setCell address value => rw [run_setCell] at h ⊢; exact attempt_of_error h
  | insert axis slot values => rw [run_insert hg] at h ⊢; exact attempt_of_error h
  | remove axis line => rw [run_remove] at h ⊢; exact attempt_of_error h
  | replace axis index values => rw [run_replace hg] at h ⊢; exact attempt_of_error h
  | pack rows columns => rw [run_pack] at h; cases h
  | clear => cases h
  | reverse axis => cases h
  | flip => rw [run_flip] at h; cases h
  | turn clockwise => rw [run_turn] at h; cases h
  | swapCells a b => rw [run_swapCells] at h ⊢; exact attempt_of_error h
  | swapLines axis i j => rw [run_swapLines] at h ⊢; exact attempt_of_error h

/-- A line is replaced if and only if it could be removed, and the same cells come back. -/
theorem returned_replace (hg : g.Rectangular) (axis : Axis) (index : Number)
    (values : List (Option α)) :
    ((replace axis index values).run g).1 = ((remove axis (.nth index)).run g).1 := by
  rw [run_replace hg, run_remove, Grid.findLine]
  cases g.lineAt axis index <;> rfl

/-- Where a line was removed, a new one always goes in. -/
theorem insert_after_remove (hg : g.Rectangular) {axis : Axis} {index : Number}
    {returned : Returned α} (h : ((remove axis (.nth index)).run g).1 = .ok returned)
    (values : List (Option α)) :
    ((insert axis (.before index) values).run ((remove axis (.nth index)).run g).2.grid).1 =
      .ok .nothing := by
  rw [run_remove, Grid.findLine] at h ⊢
  cases hi : g.lineAt axis index with
  | error fault => rw [hi] at h; cases h
  | ok i =>
    have hlt := (Grid.lineAt_eq_ok_iff.1 hi).2
    simp only [attempt]
    rw [run_insert (hg.erase hlt), Grid.findSlot, hg.slotAt_erase hi]
    rfl

/-- Two cells are swapped if all four of their indexes are there; else nothing happens. -/
theorem run_swapCells_cases (g : Grid α) (a b : CellAddress) :
    (∃ p q, g.findCell a = .ok p ∧ g.findCell b = .ok q ∧
      (swapCells a b).run g = (.ok .nothing, ⟨g.swapCells p q, []⟩)) ∨
    ∃ fault, (g.findCell a = .error fault ∨ g.findCell b = .error fault) ∧
      (swapCells a b).run g = (.error fault, ⟨g, []⟩) := by
  rw [run_swapCells]
  rcases g.findPair_cases a b with ⟨p, q, hfound, ha, hb⟩ | ⟨fault, hfound, hcell⟩
  · exact .inl ⟨p, q, ha, hb, by rw [hfound]; rfl⟩
  · exact .inr ⟨fault, hcell, by rw [hfound]; rfl⟩

end Edit

/-! ## Steps of a workbook -/

namespace Workbook

variable [Content α] {book : Workbook α}

/-- A refused step leaves no record and every sheet as it was. -/
theorem unchanged_of_error (hb : book.Reached) {step : Step α} {fault : Fault}
    (h : (book.perform step).1.answer = .error fault) :
    (book.perform step).1.records = [] ∧
      ∀ name, (book.perform step).2.sheet name = book.sheet name := by
  obtain ⟨name, action⟩ := step
  cases action with
  | build source setup =>
    simp only [perform] at h ⊢
    rcases book.build_cases name source setup with ⟨fault, hbuild⟩ | ⟨sheet, -, -, hbuild⟩ <;>
      rw [hbuild] at h ⊢
    · exact ⟨rfl, fun _ => rfl⟩
    · cases h
  | clone target => cases h
  | edit edit =>
    have hgrid := (hb name).rectangular
    simp only [perform] at h ⊢
    have hdraft : (edit.run (book.sheet name).grid).2 = ⟨(book.sheet name).grid, []⟩ := by
      cases hrun : (edit.run (book.sheet name).grid).1 with
      | error fault => exact edit.draft_of_error hgrid hrun
      | ok returned => rw [hrun] at h; cases h
    simp only [hdraft, adopt, Sheet.adopt]
    refine ⟨?_, fun other => ?_⟩
    · exact Sheet.records_nil _
    · rw [sheet_put]
      split
      · next hname => rw [hname]
      · rfl
  | ask query => exact ⟨rfl, fun _ => rfl⟩
  | draw overrides => exact ⟨rfl, fun _ => rfl⟩
  | compare other test => cases h

/-- **Refusals leave no trace**, whatever was asked of whichever sheet. In particular a line
is replaced whenever it could be removed, since what is put in after that is never refused,
and cells are swapped only if all of their indexes are there. -/
theorem refusal_leaves_no_trace (hb : book.Reached) :
    (∀ step fault, (book.perform step).1.answer = .error fault →
      (book.perform step).1.records = [] ∧
        ∀ name, (book.perform step).2.sheet name = book.sheet name) ∧
    ∀ g : Grid α, g.Reachable →
      (∀ (edit : Edit α) fault, (edit.run g).1 = .error fault → (edit.run g).2 = ⟨g, []⟩) ∧
      (∀ axis index values,
        ((Edit.replace axis index values).run g).1 =
          ((Edit.remove axis (.nth index)).run g).1 ∧
        ∀ returned, ((Edit.remove axis (.nth index)).run g).1 = .ok returned →
          ((Edit.insert axis (.before index) values).run
            ((Edit.remove axis (.nth index)).run g).2.grid).1 = .ok .nothing) ∧
      ∀ a b,
        (∃ p q, g.findCell a = .ok p ∧ g.findCell b = .ok q ∧
          (Edit.swapCells a b).run g = (.ok .nothing, ⟨g.swapCells p q, []⟩)) ∨
        ∃ fault, (g.findCell a = .error fault ∨ g.findCell b = .error fault) ∧
          (Edit.swapCells a b).run g = (.error fault, ⟨g, []⟩) := by
  refine ⟨fun step fault h => unchanged_of_error hb h, fun g hg => ⟨?_, ?_, ?_⟩⟩
  · exact fun edit fault h => edit.draft_of_error hg.rectangular h
  · exact fun axis index values => ⟨Edit.returned_replace hg.rectangular axis index values,
      fun returned h => Edit.insert_after_remove hg.rectangular h values⟩
  · exact Edit.run_swapCells_cases g

/-- Replacing the third row of a grid with one row is refused. -/
theorem third_row_refused :
    let source : Source Value := .ofLines .row [[some (.whole 1), none]]
    let book := empty.put "a" ⟨source.run.2.grid, some (.atLeast .debug), .null⟩
    let step : Step Value := ⟨"a", .edit (.replace .row (.ofNat 2) [some (.whole 5)])⟩
    book.Reached ∧ (book.perform step).1.answer = .error (.index (.noSuchLine .row 2 1)) ∧
      (book.perform step).1.records = [] ∧
      ∀ name, (book.perform step).2.sheet name = book.sheet name := by
  intro source book step
  have hb : book.Reached := reached_empty.put "a" (.built rfl)
  have hrefused : (book.perform step).1.answer = .error (.index (.noSuchLine .row 2 1)) := rfl
  exact ⟨hb, hrefused, (refusal_leaves_no_trace hb).1 step _ hrefused⟩

end Workbook

end ElasticGrid
