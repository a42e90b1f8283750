import ElasticGrid.Proofs.Content
import ElasticGrid.Proofs.Runs
import ElasticGrid.Value

/-!
# Nothing is lost

Whatever is done to a grid short of clearing it, no value is lost and none appears out of
nowhere: what is in the grid and what edits gave back is together what was in the grid and
what edits were given. One edit keeps this balance (`Edit.content_run`), and so do any
number of edits, one after the other.
-/

namespace ElasticGrid

variable {α : Type}

/-- The values that an edit brings along. -/
def Edit.supply : Edit α → Multiset α
  | setCell _ value => ↑value.toList
  | insert _ _ values => content values
  | replace _ _ values => content values
  | _ => 0

def Returned.content : Returned α → Multiset α
  | nothing => 0
  | cell value => ↑value.toList
  | line cells => ElasticGrid.content cells

/-- The values that an edit puts into a grid: none if it is refused. -/
def Edit.given (edit : Edit α) (g : Grid α) : Multiset α :=
  match (edit.run g).1 with
  | .ok _ => edit.supply
  | .error _ => 0

/-- The values that an edit of a grid gives back: none if it is refused. -/
def Edit.taken (edit : Edit α) (g : Grid α) : Multiset α :=
  match (edit.run g).1 with
  | .ok returned => returned.content
  | .error _ => 0

namespace Grid

def after (g : Grid α) (edits : List (Edit α)) : Grid α :=
  edits.foldl (fun g edit => (edit.run g).2.grid) g

/-- A trail leads to the grid after its edits, and nowhere else. -/
theorem Trail.after_eq {g h : Grid α} {steps : List (Edit α × Returned α)} {events : List Event}
    (htrail : g.Trail steps events h) : g.after (steps.map (·.1)) = h := by
  induction htrail with
  | done g => rfl
  | @step g next h edit returned events rest later hrun _ ih =>
    have hnext : (edit.run g).2.grid = next := by rw [hrun]
    rw [List.map_cons, after, List.foldl_cons, hnext]
    exact ih

def given : Grid α → List (Edit α) → Multiset α
  | _, [] => 0
  | g, edit :: edits => edit.given g + given (edit.run g).2.grid edits

def taken : Grid α → List (Edit α) → Multiset α
  | _, [] => 0
  | g, edit :: edits => edit.taken g + taken (edit.run g).2.grid edits

end Grid

/-! ## Balance -/

namespace Edit

open Editing

variable {g : Grid α}

/-- An edit is in balance if it is so whenever what it looks up is there. -/
theorem balance_of_attempt {β : Type} {edit : Edit α} {found : Except IndexFault β}
    {next : β → Returned α × Draft α} (hrun : edit.run g = attempt found next ⟨g, []⟩)
    (hnext : ∀ b, found = .ok b →
      (next b).2.grid.content + (next b).1.content = g.content + edit.supply) :
    (edit.run g).2.grid.content + edit.taken g = g.content + edit.given g := by
  rw [taken, given, hrun]
  cases found with
  | error fault => rfl
  | ok b => exact hnext b rfl

/-- **Every edit but `clear` is in balance**, whether it is refused or not. -/
theorem content_run (hg : g.Rectangular) {edit : Edit α} (hclear : edit ≠ clear) :
    (edit.run g).2.grid.content + edit.taken g = g.content + edit.given g := by
  cases edit with
  | setCell address value =>
    refine balance_of_attempt (run_setCell g address value) fun p hp => ?_
    obtain ⟨hx, hy⟩ := Grid.findCell_lt hp
    exact hg.hasShape.content_setCell hx hy value
  | insert axis slot values =>
    refine balance_of_attempt (run_insert hg axis slot values) fun i hi => ?_
    exact (add_zero _).trans (hg.content_insert (Grid.findSlot_le hi) values)
  | remove axis line =>
    refine balance_of_attempt (run_remove g axis line) fun i hi => ?_
    exact (hg.content_erase (Grid.findLine_lt hi)).trans (add_zero _).symm
  | replace axis index values =>
    refine balance_of_attempt (run_replace hg axis index values) fun i hi => ?_
    exact hg.content_replace (Grid.lineAt_eq_ok_iff.1 hi).2 values
  | pack rows columns =>
    rw [taken, given, run_pack]
    exact congrArg (· + 0) (((hg.packIf .row rows).content_packIf .column columns).trans
      (hg.content_packIf .row rows))
  | clear => exact absurd rfl hclear
  | reverse axis => exact congrArg (· + 0) (hg.content_reverse axis)
  | flip => rw [taken, given, run_flip]; exact congrArg (· + 0) hg.content_flip
  | turn clockwise =>
    rw [taken, given, run_turn]
    exact congrArg (· + 0) ((hg.flip.content_reverse _).trans hg.content_flip)
  | swapCells a b =>
    refine balance_of_attempt (run_swapCells g a b) fun pq hpq => ?_
    obtain ⟨⟨hpx, hpy⟩, hqx, hqy⟩ := Grid.findPair_lt hpq
    exact congrArg (· + 0) (hg.hasShape.content_swapCells hpx hpy hqx hqy)
  | swapLines axis i j =>
    refine balance_of_attempt (run_swapLines g axis i j) fun ij hij => ?_
    obtain ⟨hi, hj⟩ := Grid.findLines_lt hij
    exact congrArg (· + 0) (hg.content_swap hi hj)

end Edit

/-- **No value is lost or doubled over a run without `clear`.** What edits gave back and what
the grid holds in the end is what edits were given and what it held at first; refused edits
count for nothing. -/
theorem Grid.Reachable.content_after {g : Grid α} (hg : g.Reachable) {edits : List (Edit α)}
    (hedits : ∀ edit ∈ edits, edit ≠ .clear) :
    (g.after edits).content + g.taken edits = g.content + g.given edits := by
  induction edits generalizing g with
  | nil => rfl
  | cons edit edits ih =>
    have hfirst := edit.content_run hg.rectangular (hedits edit List.mem_cons_self)
    have hrest := ih (hg.edited edit) fun edit hm => hedits edit (List.mem_cons_of_mem _ hm)
    calc (g.after (edit :: edits)).content + g.taken (edit :: edits)
        = ((edit.run g).2.grid.after edits).content + (edit.run g).2.grid.taken edits +
            edit.taken g := by rw [taken, add_assoc, add_comm (edit.taken g)]; rfl
      _ = (edit.run g).2.grid.content + edit.taken g + (edit.run g).2.grid.given edits := by
        rw [hrest]; ac_rfl
      _ = g.content + g.given (edit :: edits) := by rw [hfirst, given, add_assoc]

/-- A line goes in, a column is not there to be removed, a blank column is packed away and a
longer line takes the place of the first one. -/
theorem content_after_four_edits :
    let g : Grid Value := (Source.ofLines .row [[some (.whole 1), none]]).run.2.grid
    let edits : List (Edit Value) := [.insert .row .atEnd [some (.whole 2)],
      .remove .column (.nth (.ofNat 7)), .pack true true,
      .replace .row (.ofNat 0) [none, some (.whole 3)]]
    g.Reachable ∧ (∀ edit ∈ edits, edit ≠ .clear) ∧
      (g.after edits).content + g.taken edits = g.content + g.given edits ∧
      g.after edits = ⟨[[none, some (.whole 2)], [some (.whole 3), none]]⟩ := by
  intro g edits
  have hg : g.Reachable := .built rfl
  have hedits : ∀ edit ∈ edits, edit ≠ .clear := by simp [edits]
  have hafter : g.after edits = ⟨[[none, some (.whole 2)], [some (.whole 3), none]]⟩ := by
    decide +kernel
  exact ⟨hg, hedits, hg.content_after hedits, hafter⟩

end ElasticGrid
