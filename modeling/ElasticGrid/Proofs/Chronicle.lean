import ElasticGrid.Proofs.BoundingBox
import ElasticGrid.Proofs.Literals
import ElasticGrid.Proofs.Refusal
import Mathlib.Algebra.GroupWithZero.Nat
import Mathlib.Data.List.Induction

/-!
# What the journal tells

A journal of level `debug` or `trace` keeps every event, so it can be read as a chronicle of
the sizes of a grid. What is in it after an edit follows from the grid before the edit and the
grid after it: a line that is too long stretches the other axis by what is missing, a removal
collapses the grid if nothing is left of it, packing tells the loss on both axes, a flip tells
the new size. All else goes on in silence.
-/

namespace ElasticGrid

variable {α : Type}

namespace Grid

variable {g : Grid α} {axis : Axis} {n : Nat}

theorem Rectangular.size_stretch (hg : g.Rectangular) (hne : 0 < g.columnCount)
    (hn : g.count axis ≤ n) : (g.stretch axis n).size = axis.position n (g.count axis.cross) := by
  have hs := hg.hasShape
  have hmax : max n (g.count axis) = n := Nat.max_eq_left hn
  cases axis
  · exact (hs.widen hne n).size_eq.trans (congrArg (Position.mk · g.rowCount) hmax)
  · exact (hs.heighten hne n).size_eq.trans (congrArg (Position.mk g.columnCount) hmax)

theorem Rectangular.growth_eq (hg : g.Rectangular) (hne : 0 < g.columnCount) (axis : Axis)
    (n : Nat) :
    g.growth axis n =
      if g.count axis < n then
        [.stretched axis (n - g.count axis) (axis.position n (g.count axis.cross))]
      else [] := by
  rw [growth]
  split
  · next hn => rw [hg.size_stretch hne (Nat.le_of_lt hn)]
  · rfl

/-- A line of `n` cells stretches the other axis if it is too long for a grid that is there. -/
theorem Rectangular.insertion_eq (hg : g.Rectangular) (axis : Axis) (n : Nat) :
    g.insertion axis n =
      if ¬g.isEmpty ∧ g.count axis.cross < n then
        [.stretched axis.cross (n - g.count axis.cross) (axis.cross.position n (g.count axis))]
      else [] := by
  rw [insertion]
  by_cases hempty : g.isEmpty
  · rw [if_pos hempty, if_neg fun h => h.1 hempty]
  · have hne : 0 < g.columnCount := by
      rw [isEmpty_iff_columnCount] at hempty
      omega
    rw [if_neg hempty, hg.growth_eq hne, Axis.cross_cross]
    simp only [hempty, Bool.false_eq_true, not_false_eq_true, true_and]

theorem Rectangular.packing_of_empty (hg : g.Rectangular) (hempty : g.columnCount = 0)
    (rows columns : Bool) : g.packing rows columns = [] := by
  have hmid_empty := (hg.columnCount_packIf_eq_zero_iff .row rows).2 (.inl hempty)
  have hloss : g.packLoss .row rows = 0 := by
    show g.rowCount - _ = 0
    rw [hg.columnCount_eq_zero_iff.1 hempty, Nat.zero_sub]
  have hloss' : (g.packIf .row rows).packLoss .column columns = 0 := by
    show (g.packIf .row rows).columnCount - _ = 0
    rw [hmid_empty, Nat.zero_sub]
  rw [packing, packCollapse_eq, packCollapse_eq, if_neg fun h => h.1 hempty,
    if_neg fun h => h.1 hmid_empty, hloss, hloss']
  rfl

/-- With something left, only the losses are told. -/
theorem Rectangular.packing_of_kept (hg : g.Rectangular) {rows columns : Bool}
    (hkept : ((g.packIf .row rows).packIf .column columns).columnCount ≠ 0) :
    let packed := (g.packIf .row rows).packIf .column columns
    g.packing rows columns =
      if packed.size = g.size then []
      else [.packed (g.rowCount - packed.rowCount) (g.columnCount - packed.columnCount)] := by
  intro packed
  have hmid := hg.packIf .row rows
  have hmid_kept : (g.packIf .row rows).columnCount ≠ 0 := fun h =>
    hkept ((hmid.columnCount_packIf_eq_zero_iff .column columns).2 (.inl h))
  have hrow : packed.rowCount = (g.packIf .row rows).rowCount := hmid.count_cross_packIf hkept
  have hcolumn : (g.packIf .row rows).columnCount = g.columnCount := hg.count_cross_packIf hmid_kept
  have hrow_le : packed.rowCount ≤ g.rowCount := hrow ▸ hg.count_packIf_le .row rows
  have hcolumn_le : packed.columnCount ≤ g.columnCount :=
    hcolumn ▸ hmid.count_packIf_le .column columns
  have hsame : (0 < g.rowCount - packed.rowCount ∨ 0 < g.columnCount - packed.columnCount) ↔
      ¬packed.size = g.size := by
    rw [size, size, Position.mk.injEq]
    omega
  have hloss : g.packLoss .row rows = g.rowCount - packed.rowCount := by rw [hrow]; rfl
  have hloss' : (g.packIf .row rows).packLoss .column columns =
      g.columnCount - packed.columnCount := by rw [← hcolumn]; rfl
  rw [packing, packCollapse_eq, packCollapse_eq, if_neg fun h => hmid_kept h.2,
    if_neg fun h => hkept h.2, hloss, hloss', List.append_nil, List.nil_append]
  by_cases hsize : packed.size = g.size
  · rw [if_pos hsize, if_neg fun h => hsame.1 h hsize]
  · rw [if_neg hsize, if_pos (hsame.2 hsize)]

/-- Rows are packed first, so a grid without values is emptied along its rows if these are packed
at all. -/
theorem Rectangular.packing_of_emptied (hg : g.Rectangular) {rows columns : Bool}
    (hne : g.columnCount ≠ 0)
    (hemptied : ((g.packIf .row rows).packIf .column columns).columnCount = 0) :
    g.packing rows columns =
      if rows then [.collapsed .row, .packed g.rowCount 0]
      else [.collapsed .column, .packed 0 g.columnCount] := by
  cases rows with
  | false =>
    rw [packIf_false] at hemptied
    have hloss : g.packLoss .column columns = g.columnCount := by
      show g.columnCount - (g.packIf .column columns).columnCount = _
      rw [hemptied]; rfl
    rw [packing, packIf_false, packCollapse_false, packLoss_false, packCollapse_eq,
      if_pos ⟨hne, hemptied⟩, hloss, if_pos (.inr (Nat.pos_of_ne_zero hne))]
    rfl
  | true =>
    have hmid := hg.packIf .row true
    have hmid_emptied : (g.packIf .row true).columnCount = 0 := by
      refine ((hmid.columnCount_packIf_eq_zero_iff .column columns).1 hemptied).elim id fun h => ?_
      refine (hg.columnCount_packIf_eq_zero_iff .row true).2 (.inr ⟨rfl, fun x y => ?_⟩)
      rw [← hg.cell_packIf .row true, h.2]
    have hrow_pos : 0 < g.rowCount := by have := hg.columnCount_eq_zero_iff; omega
    have hloss : g.packLoss .row true = g.rowCount := by
      show g.rowCount - (g.packIf .row true).rowCount = _
      rw [hmid.columnCount_eq_zero_iff.1 hmid_emptied]; rfl
    have hloss' : (g.packIf .row true).packLoss .column columns = 0 := by
      show (g.packIf .row true).columnCount - _ = 0
      rw [hmid_emptied, Nat.zero_sub]
    rw [packing, packCollapse_eq, packCollapse_eq, if_pos ⟨hne, hmid_emptied⟩,
      if_neg fun h => h.1 hmid_emptied, hloss, hloss', if_pos (.inl hrow_pos)]
    rfl

/-- What packing tells follows from the sizes before and after it. -/
theorem Rectangular.packing_eq (hg : g.Rectangular) (rows columns : Bool) :
    let packed := (g.packIf .row rows).packIf .column columns
    g.packing rows columns =
      if packed.size = g.size then []
      else if ¬packed.isEmpty then
        [.packed (g.rowCount - packed.rowCount) (g.columnCount - packed.columnCount)]
      else if rows then [.collapsed .row, .packed g.rowCount 0]
      else [.collapsed .column, .packed 0 g.columnCount] := by
  intro packed
  have hpacked := (hg.packIf .row rows).packIf .column columns
  have hempty_iff := packed.isEmpty_iff_columnCount
  by_cases hempty : packed.columnCount = 0
  · by_cases hne : g.columnCount = 0
    · have hsize : packed.size = g.size := by
        rw [size, size, hempty, hne, hpacked.columnCount_eq_zero_iff.1 hempty,
          hg.columnCount_eq_zero_iff.1 hne]
      rw [if_pos hsize, hg.packing_of_empty hne]
    · have hsize : packed.size ≠ g.size := fun h => hne (hempty ▸ (congrArg Position.x h).symm)
      rw [if_neg hsize, if_neg (not_not_intro (hempty_iff.2 hempty)),
        hg.packing_of_emptied hne hempty]
  · rw [if_pos fun h => hempty (hempty_iff.1 h)]
    exact hg.packing_of_kept hempty

end Grid

/-! ## Events of an edit -/

namespace Edit

open Editing

variable {g : Grid α} {axis : Axis} {returned : Returned α}

/-- Edits that keep the size of a grid, and `clear`, which is wanted. -/
inductive Quiet : Edit α → Prop where
  | setCell (address : CellAddress) (value : Option α) : Quiet (.setCell address value)
  | clear : Quiet .clear
  | reverse (axis : Axis) : Quiet (.reverse axis)
  | swapCells (a b : CellAddress) : Quiet (.swapCells a b)
  | swapLines (axis : Axis) (i j : Number) : Quiet (.swapLines axis i j)

theorem events_insert (hg : g.Rectangular) {slot : SlotAddress} {values : List (Option α)}
    (hok : ((insert axis slot values).run g).1 = .ok returned) :
    ((insert axis slot values).run g).2.events =
      if ¬g.isEmpty ∧ g.count axis.cross < values.length then
        [.stretched axis.cross (values.length - g.count axis.cross)
          (axis.cross.position values.length (g.count axis))]
      else [] := by
  rw [run_insert hg] at hok ⊢
  cases hi : g.findSlot axis slot with
  | error fault => rw [hi] at hok; cases hok
  | ok i => exact hg.insertion_eq axis values.length

theorem events_remove {line : LineAddress} (hok : ((remove axis line).run g).1 = .ok returned) :
    ((remove axis line).run g).2.events =
      if ((remove axis line).run g).2.grid.isEmpty then [.collapsed axis] else [] := by
  rw [run_remove] at hok ⊢
  cases hi : g.findLine axis line with
  | error fault => rw [hi] at hok; cases hok
  | ok i => rfl

theorem events_pack (hg : g.Rectangular) (rows columns : Bool) :
    let packed := ((pack rows columns).run g).2.grid
    ((pack rows columns).run g).2.events =
      if packed.size = g.size then []
      else if ¬packed.isEmpty then
        [.packed (g.rowCount - packed.rowCount) (g.columnCount - packed.columnCount)]
      else if rows then [.collapsed .row, .packed g.rowCount 0]
      else [.collapsed .column, .packed 0 g.columnCount] := by
  rw [run_pack]
  exact hg.packing_eq rows columns

theorem events_flip (hg : g.Rectangular) :
    (flip.run g).2.events = if g.isEmpty then [] else [.flipped (flip.run g).2.grid.size] := by
  rw [run_flip, Grid.flipping, hg.isEmpty_flip]

theorem events_turn (hg : g.Rectangular) (clockwise : Bool) :
    ((turn clockwise).run g).2.events =
      if g.isEmpty then [] else [.flipped ((turn clockwise).run g).2.grid.size] := by
  have hs := hg.flip.hasShape
  have hsize : ∀ axis, (g.flip.reverse axis).size = g.flip.size := fun axis => by
    cases axis
    · exact hs.reverseX.size_eq
    · exact hs.reverseY.size_eq
  rw [run_turn, Grid.flipping, hg.isEmpty_flip, hsize]

theorem Quiet.events {edit : Edit α} (hquiet : edit.Quiet) (g : Grid α) :
    (edit.run g).2.events = [] := by
  cases hquiet with
  | setCell address value => rw [run_setCell]; cases g.findCell address <;> rfl
  | clear => rfl
  | reverse axis => rfl
  | swapCells a b => rw [run_swapCells]; cases g.findPair a b <;> rfl
  | swapLines axis i j => rw [run_swapLines]; cases g.findLines axis i j <;> rfl

end Edit

/-! ## Events of lines that are put in one by one -/

namespace Source

variable {axis : Axis} {lines : List (List (Option α))}

/-- One more line tells by how much it is longer than all lines before it. -/
theorem events_appendLine (axis : Axis) {line : List (Option α)} (hne : [] ∉ lines)
    (hline : line ≠ []) :
    let d := lines.foldl (appendLine axis) ⟨.empty, []⟩
    (appendLine axis d line).events = d.events ++
      if lines ≠ [] ∧ longest lines < line.length then
        [.stretched axis.cross (line.length - longest lines)
          (axis.cross.position line.length lines.length)]
      else [] := by
  intro d
  have hd : d.grid.Rectangular := rectangular_foldl_appendLine Grid.rectangular_empty axis lines
  rw [appendLine, if_neg (by simpa using hline)]
  dsimp only
  rw [hd.insertion_eq]
  by_cases hlines : lines = []
  · subst hlines
    rw [if_neg fun h => h.1 rfl, if_neg fun h => h.1 rfl]
  · obtain ⟨hcount, hcross, -⟩ := hd.read_evened (lines_foldl_appendLine axis hne) hlines
    have hnonempty : ¬d.grid.isEmpty := by
      have hpos : 0 < d.grid.count axis := hcount ▸ List.length_pos_iff.2 hlines
      have hzero := hd.columnCount_eq_zero_iff
      rw [Grid.isEmpty_iff_columnCount]
      cases axis
      · exact Nat.ne_of_gt hpos
      · exact fun h => Nat.ne_of_gt hpos (hzero.1 h)
    simp only [hcount, hcross, ne_eq, hlines, hnonempty, not_false_iff, Bool.false_eq_true]

/-- Of the longest line, all that goes beyond the first one was told. The induction is from the end,
since a line is measured against all lines before it. -/
theorem events_foldl_appendLine (axis : Axis) (hne : [] ∉ lines) :
    ∃ growths : List (Nat × Position),
      (lines.foldl (appendLine axis) ⟨.empty, []⟩).events =
        growths.map (fun growth => .stretched axis.cross growth.1 growth.2) ∧
      longest lines = (lines.headD []).length + (growths.map Prod.fst).sum := by
  induction lines using List.reverseRecOn with
  | nil => exact ⟨[], rfl, rfl⟩
  | append_singleton before line ih =>
    have hbefore : [] ∉ before := fun hm => hne (List.mem_append_left _ hm)
    have hline : line ≠ [] := fun h => hne (h ▸ List.mem_append_right _ List.mem_cons_self)
    obtain ⟨growths, hevents, hsum⟩ := ih hbefore
    rw [List.foldl_append, List.foldl_cons, List.foldl_nil, events_appendLine axis hbefore hline,
      longest_append, show longest [line] = line.length from Nat.max_zero _, hevents]
    rcases before with _ | ⟨first, before⟩
    · obtain rfl : growths = [] := List.map_eq_nil_iff.1 hevents.symm
      exact ⟨[], rfl, Nat.zero_max _⟩
    · replace hsum : longest (first :: before) = first.length + _ := hsum
      by_cases hlonger : longest (first :: before) < line.length
      · refine ⟨growths ++ [(line.length - longest (first :: before),
          axis.cross.position line.length (first :: before).length)], ?_, ?_⟩
        · rw [if_pos ⟨List.cons_ne_nil _ _, hlonger⟩, List.map_append]
          rfl
        · rw [Nat.max_eq_right (Nat.le_of_lt hlonger), List.map_append, List.sum_append]
          show line.length = first.length + (_ + (line.length - longest (first :: before)))
          rw [← Nat.add_assoc, ← hsum]
          exact (Nat.add_sub_of_le (Nat.le_of_lt hlonger)).symm
      · refine ⟨growths, ?_, ?_⟩
        · rw [if_neg fun h => hlonger h.2, List.append_nil]
        · rw [Nat.max_eq_left (Nat.le_of_not_lt hlonger)]
          exact hsum

end Source

/-! ## Records of a step -/

def Sheet.Verbose (sheet : Sheet α) : Prop :=
  sheet.level = some (.atLeast .trace) ∨ sheet.level = some (.atLeast .debug)

theorem Sheet.Verbose.records {sheet : Sheet α} (hsheet : sheet.Verbose) (events : List Event) :
    sheet.records events = events.map Event.record := by
  obtain ⟨level, hlevel, haccepts⟩ : ∃ level, sheet.level = some level ∧ level.accepts .debug := by
    rcases hsheet with hlevel | hlevel <;> exact ⟨_, hlevel, rfl⟩
  simp only [Sheet.records, hlevel]
  rw [Level.keep_map_record, if_pos haccepts]

/-- Quiet edits, grids that do not come from lines, and all that only looks at a sheet or copies
it. -/
inductive Action.Quiet : Action α → Prop where
  | edit {edit : Edit α} (hquiet : edit.Quiet) : Quiet (.edit edit)
  | start (setup : Setup) : Quiet (.build .empty setup)
  | blank (columns rows : Number) (setup : Setup) : Quiet (.build (.ofSize columns rows) setup)
  | clone (name : String) : Quiet (.clone name)
  | ask (query : Query α) : Quiet (.ask query)
  | draw (overrides : Datum) : Quiet (.draw overrides)
  | compare (other : String) (test : α → α → Bool) : Quiet (.compare other test)

namespace Workbook

variable [Content α] {book : Workbook α} {name : String} {answer : Answer α}

theorem records_edit (book : Workbook α) (name : String) (edit : Edit α) :
    (book.replyTo name (.edit edit)).records =
      (book.sheet name).records (edit.run (book.sheet name).grid).2.events := rfl

theorem records_build_cases (book : Workbook α) (name : String) (source : Source α)
    (setup : Setup) :
    let reply := book.replyTo name (.build source setup)
    (∃ fault, reply.answer = .error fault) ∧ reply.records = [] ∨
      source.run.1 = .ok () ∧ reply.records = reply.sheet.records source.run.2.events := by
  simp only [replyTo, perform]
  rcases book.build_cases name source setup with ⟨fault, h⟩ | ⟨sheet, -, hrun, h⟩ <;> rw [h]
  · exact .inl ⟨⟨fault, rfl⟩, rfl⟩
  · exact .inr ⟨hrun, rfl⟩

theorem run_of_answer {edit : Edit α}
    (hok : (book.replyTo name (.edit edit)).answer = .ok answer) :
    ∃ returned, (edit.run (book.sheet name).grid).1 = .ok returned := by
  cases hrun : (edit.run (book.sheet name).grid).1 with
  | ok returned => exact ⟨returned, rfl⟩
  | error fault => simp only [replyTo, perform, hrun] at hok; cases hok

end Workbook

theorem Action.Quiet.records [Content α] {action : Action α} (hquiet : action.Quiet)
    (book : Workbook α) (name : String) : (book.replyTo name action).records = [] := by
  have hsource : ∀ (source : Source α) (setup : Setup), source.run.2.events = [] →
      (book.replyTo name (.build source setup)).records = [] := fun source setup hevents => by
    rcases book.records_build_cases name source setup with ⟨-, hrecords⟩ | ⟨-, hrecords⟩
    · exact hrecords
    · rw [hrecords, hevents, Sheet.records_nil]
  cases hquiet with
  | edit hquiet => rw [Workbook.records_edit, hquiet.events, Sheet.records_nil]
  | start setup => exact hsource _ setup rfl
  | blank columns rows setup =>
    refine hsource _ setup ?_
    rw [Source.run_ofSize]
    cases Source.requireSize columns rows <;> rfl
  | clone target => rfl
  | ask query => rfl
  | draw overrides => rfl
  | compare other test => rfl

namespace Workbook

variable [Content α] {book : Workbook α} {name : String} {answer : Answer α}

/-- The last row or column of a sheet is removed, step by step, for as long as it is blank and if
that is wanted at all. The records are those of the replies, one after the other. -/
inductive Strips (name : String) (axis : Axis) :
    Bool → Nat → List Record → Workbook α → Workbook α → Prop where
  | unwanted (book : Workbook α) : Strips name axis false 0 [] book book
  | done {book : Workbook α} :
    (∀ i, (book.sheet name).grid.findLine axis .last = .ok i →
      ¬Grid.isBlankLine ((book.sheet name).grid.line axis i)) →
      Strips name axis true 0 [] book book
  | strip {book left : Workbook α} {i n : Nat} {records : List Record} :
    (book.sheet name).grid.findLine axis .last = .ok i →
      Grid.isBlankLine ((book.sheet name).grid.line axis i) →
      Strips name axis true n records (book.perform ⟨name, .edit (.remove axis .last)⟩).2 left →
      Strips name axis true (n + 1)
        ((book.replyTo name (.edit (.remove axis .last))).records ++ records) book left

/-- What goes on in a grid goes on in each sheet that has it, and the journal is told of it. -/
theorem exists_strips {axis : Axis} {wanted : Bool} {n : Nat} {events : List Event} {g h : Grid α}
    (hstrips : Grid.Strips axis wanted n events g h) (hgrid : (book.sheet name).grid = g) :
    ∃ left, Strips name axis wanted n ((book.sheet name).records events) book left ∧
      left.sheet name = { book.sheet name with grid := h } := by
  induction hstrips generalizing book with
  | unwanted g =>
    subst hgrid
    exact ⟨book, (book.sheet name).records_nil.symm ▸ .unwanted book, rfl⟩
  | done hdone =>
    subst hgrid
    exact ⟨book, (book.sheet name).records_nil.symm ▸ .done hdone, rfl⟩
  | strip hlast hblank _ ih =>
    subst hgrid
    have hsheet := (book.sheet_edit name name (.remove axis .last)).trans (if_pos rfl)
    obtain ⟨left, hleft, hsame⟩ := ih (congrArg Sheet.grid hsheet)
    rw [hsheet] at hleft hsame
    refine ⟨left, ?_, hsame⟩
    rw [Sheet.records_append, ← records_edit]
    exact .strip hlast hblank hleft

/-- Packing tells what the removal of each line tells and, if there was any, how many there were. -/
theorem records_pack (hg : (book.sheet name).grid.Rectangular) (hsheet : (book.sheet name).Verbose)
    (rows columns : Bool) :
    ∃ m n before after mid left, Strips name .row rows m before book mid ∧
      Strips name .column columns n after mid left ∧
      (book.replyTo name (.edit (.pack rows columns))).sheet = left.sheet name ∧
      (book.replyTo name (.edit (.pack rows columns))).records =
        before ++ after ++ if 0 < m ∨ 0 < n then [.packed m n] else [] := by
  have hrun := Edit.run_pack (book.sheet name).grid rows columns
  obtain ⟨mid, hrows, hmid⟩ := exists_strips (hg.strips_iff.2 ⟨rfl, rfl, rfl⟩) rfl
  obtain ⟨left, hcolumns, hleft⟩ :=
    exists_strips ((hg.packIf .row rows).strips_iff.2 ⟨rfl, rfl, rfl⟩) (congrArg Sheet.grid hmid)
  refine ⟨_, _, _, _, mid, left, hrows, hcolumns, ?_, ?_⟩
  · rw [hleft, hmid, replyTo, sheet_perform, sheet_edit, if_pos rfl, hrun]
  · rw [records_edit, hrun, Grid.packing, Sheet.records_append, Sheet.records_append, hmid]
    congr 1
    split
    · rw [hsheet.records]
      rfl
    · exact (book.sheet name).records_nil

theorem records_of_events (hsheet : (book.sheet name).Verbose) {edit : Edit α} {events : List Event}
    (hevents : (edit.run (book.sheet name).grid).2.events = events) :
    (book.replyTo name (.edit edit)).records = events.map Event.record := by
  rw [records_edit, hsheet.records, hevents]

theorem records_of_ite (hsheet : (book.sheet name).Verbose) {edit : Edit α} {p : Prop} [Decidable p]
    {events events' : List Event}
    (hevents : (edit.run (book.sheet name).grid).2.events = if p then events else events') :
    (book.replyTo name (.edit edit)).records =
      if p then events.map Event.record else events'.map Event.record := by
  rw [records_of_events hsheet hevents, apply_ite (List.map Event.record)]

theorem records_ofLines {axis : Axis} {lines : List (List (Option α))} {setup : Setup}
    (hok : (book.replyTo name (.build (.ofLines axis lines) setup)).answer = .ok answer)
    (hsheet : (book.replyTo name (.build (.ofLines axis lines) setup)).sheet.Verbose)
    (hline : ∃ line ∈ lines, line ≠ []) :
    ∃ growths : List (Nat × Position),
      (book.replyTo name (.build (.ofLines axis lines) setup)).records =
        growths.map (fun growth => .stretched axis.cross growth.1 growth.2) ∧
      longest lines = (lines.headD []).length + (growths.map Prod.fst).sum := by
  rcases book.records_build_cases name (.ofLines axis lines) setup with
    ⟨⟨fault, hrefused⟩, -⟩ | ⟨haccepted, hrecords⟩
  · rw [hrefused] at hok; cases hok
  · rcases Source.run_ofLines_cases axis lines with ⟨hrun, hcase⟩ | ⟨position, hrefused, -⟩
    · obtain ⟨growths, hevents, hsum⟩ := Source.events_foldl_appendLine axis fun hm => by
        obtain ⟨line, hm', hne⟩ := hline
        exact hcase.elim (fun hempty => hne (hempty line hm')) fun hnone => hnone hm
      refine ⟨growths, ?_, hsum⟩
      rw [hrecords, hsheet.records, hrun, hevents, List.map_map]
      exact List.map_congr_left fun growth _ => Event.record_stretched ..
    · rw [hrefused] at haccepted; cases haccepted

/-- **The journal tells what changed.** A line that is put in tells by how much it is too long for
a grid that is there, a removal tells if nothing is left, packing tells its losses, with what
collapsed before them if nothing is left, and a flip or turn tells the new size. What packing tells
is what the removal of each blank line tells, with the number of lines behind it. Quiet actions
tell nothing. So what the building of a grid from its lines tells adds up to the difference between
the longest line and the first. -/
theorem Reached.journal_tells (hb : book.Reached) (hsheet : (book.sheet name).Verbose) :
    let g := (book.sheet name).grid
    (∀ axis slot values answer,
      let reply := book.replyTo name (.edit (.insert axis slot values))
      reply.answer = .ok answer →
      reply.records =
        if ¬g.isEmpty ∧ g.count axis.cross < values.length then
          [.stretched axis.cross (values.length - g.count axis.cross)
            (axis.cross.position values.length (g.count axis))]
        else []) ∧
    (∀ axis line answer,
      let reply := book.replyTo name (.edit (.remove axis line))
      reply.answer = .ok answer →
      reply.records = if reply.sheet.grid.isEmpty then [.collapsed axis] else []) ∧
    (∀ rows columns,
      let reply := book.replyTo name (.edit (.pack rows columns))
      let packed := reply.sheet.grid
      (reply.records =
        if packed.size = g.size then []
        else if ¬packed.isEmpty then
          [.packed (g.rowCount - packed.rowCount) (g.columnCount - packed.columnCount)]
        else if rows then [.collapsed .row, .packed g.rowCount 0]
        else [.collapsed .column, .packed 0 g.columnCount]) ∧
      ∃ m n before after mid left, Strips name .row rows m before book mid ∧
        Strips name .column columns n after mid left ∧ reply.sheet = left.sheet name ∧
        reply.records = before ++ after ++ if 0 < m ∨ 0 < n then [.packed m n] else []) ∧
    (∀ edit, edit = .flip ∨ (∃ clockwise, edit = .turn clockwise) →
      let reply := book.replyTo name (.edit edit)
      reply.records = if g.isEmpty then [] else [.transposed reply.sheet.grid.size]) ∧
    (∀ action : Action α, action.Quiet → (book.replyTo name action).records = []) ∧
    ∀ axis lines setup answer,
      let reply := book.replyTo name (.build (.ofLines axis lines) setup)
      reply.answer = .ok answer → reply.sheet.Verbose → (∃ line ∈ lines, line ≠ []) →
      ∃ growths : List (Nat × Position),
        reply.records = growths.map (fun growth => .stretched axis.cross growth.1 growth.2) ∧
        longest lines = (lines.headD []).length + (growths.map Prod.fst).sum := by
  intro g
  have hg : g.Rectangular := (hb name).rectangular
  refine ⟨fun axis slot values answer hok => ?_, ?_, fun rows columns => ⟨?_, ?_⟩,
    fun edit hedit => ?_, fun action hquiet => hquiet.records book name,
    fun axis lines setup answer => records_ofLines⟩
  · obtain ⟨returned, hrun⟩ := run_of_answer hok
    rw [← Event.record_stretched]
    exact records_of_ite hsheet (Edit.events_insert hg hrun)
  · intro axis line answer reply hok
    obtain ⟨returned, hrun⟩ := run_of_answer hok
    rw [← Event.record_collapsed]
    exact records_of_ite hsheet (Edit.events_remove hrun)
  · rw [records_of_events hsheet (Edit.events_pack hg rows columns)]
    simp only [apply_ite (List.map Event.record), List.map_cons, List.map_nil, Event.record_packed,
      Event.record_collapsed]
    rfl
  · exact records_pack hg hsheet rows columns
  · intro reply
    rcases hedit with rfl | ⟨clockwise, rfl⟩
    · exact records_of_ite hsheet (Edit.events_flip hg)
    · exact records_of_ite hsheet (Edit.events_turn hg clockwise)

/-- On a blank grid of two columns and three rows, a row of four cells tells of two columns, and
packing tells what collapsed first. A turn tells the new size. Three rows of which the second is the
longest tell, all in all, by how much it is longer than the first. -/
theorem told_of_blank_grid :
    let source : Source Value := .ofSize (.ofNat 2) (.ofNat 3)
    let book := empty.put "a" ⟨source.run.2.grid, some (.atLeast .debug), .null⟩
    let records (edit : Edit Value) : List Record := (book.replyTo "a" (.edit edit)).records
    let number (n : Nat) : Datum := .number (.ofNat n)
    let rows : List (List (Option Value)) :=
      [[some (.whole 1)], [none, none, some (.whole 2)], [none, some (.whole 3)]]
    let built : Action Value := .build (.ofLines .row rows) (.configured "trace" .null)
    book.Reached ∧ (book.sheet "a").Verbose ∧
      records (.insert .row .atEnd [none, none, none, none]) =
        [⟨.debug, [("axis", .text "columns"), ("added", number 2), ("size", .text "[4, 3]")],
          "matrix_stretched"⟩] ∧
      records (.remove .row .last) = [] ∧
      records (.pack true true) = [⟨.debug, [("removed", .text "row")], "matrix_collapsed"⟩,
        ⟨.debug, [("rowsRemoved", number 3), ("columnsRemoved", number 0)], "matrix_packed"⟩] ∧
      records (.pack false true) = [⟨.debug, [("removed", .text "column")], "matrix_collapsed"⟩,
        ⟨.debug, [("rowsRemoved", number 0), ("columnsRemoved", number 2)], "matrix_packed"⟩] ∧
      records (.turn true) =
        [⟨.debug, [("columns", number 3), ("rows", number 2)], "matrix_transposed"⟩] ∧
      records .clear = [] ∧
      ∃ growths : List (Nat × Position), (book.replyTo "a" built).records =
          growths.map (fun growth => .stretched .column growth.1 growth.2) ∧
        3 = 1 + (growths.map Prod.fst).sum := by
  intro source book records number rows built
  have hb : book.Reached := reached_empty.put "a" (.built rfl)
  have hsheet : (book.sheet "a").Verbose := .inr rfl
  obtain ⟨hinsert, hremove, hpack, hflip, hquiet, hbuild⟩ := hb.journal_tells hsheet
  have hlevel : Level.ofName? "trace" = some (.atLeast .trace) := by decide +kernel
  have hreply : book.replyTo "a" built = (book.adopt "a" ⟨.empty, some (.atLeast .trace),
      .record []⟩ (Source.ofLines .row rows).run.2 (.ok .done)).1 := by
    simp only [built, replyTo, perform, build, Setup.sheet_configured hlevel]
    rfl
  obtain ⟨growths, htold, hsum⟩ :=
    hbuild .row rows (.configured "trace" .null) .done (by rw [hreply]; rfl)
      (.inl (by rw [hreply]; rfl)) ⟨_, List.mem_cons_self, List.cons_ne_nil _ _⟩
  have hstretched : Record.stretched .column 2 ⟨4, 3⟩ = ⟨.debug,
      [("axis", .text "columns"), ("added", number 2), ("size", .text "[4, 3]")],
      "matrix_stretched"⟩ := by
    rw [Record.stretched, show s!"[{4}, {3}]" = "[4, 3]" by decide +kernel]
  refine ⟨hb, hsheet, ?_, ?_, ?_, ?_, ?_, hquiet _ (.edit .clear), growths, htold, hsum⟩
  · rw [← hstretched]
    exact (hinsert .row .atEnd [none, none, none, none] _ rfl).trans rfl
  · exact (hremove .row .last _ rfl).trans rfl
  · refine (hpack true true).1.trans ?_
    rw [if_neg (by decide +kernel), if_neg (by decide +kernel), if_pos rfl]
    rfl
  · refine (hpack false true).1.trans ?_
    rw [if_neg (by decide +kernel), if_neg (by decide +kernel), if_neg Bool.false_ne_true]
    rfl
  · exact (hflip (.turn true) (.inr ⟨true, rfl⟩)).trans rfl

end Workbook

end ElasticGrid
