import ElasticGrid.Proofs.Chronicle
import ElasticGrid.Proofs.Replacement

/-!
# What the journal tells of a replacement

A replacement changes a grid in one way only: lines across the axis are added if the new line is
longer than the old one. This is what the journal tells, as long as there is another line along the
axis (`TellsGrowth`). The only line cannot be taken out without emptying the grid in between, and
the journal tells that way instead of where it leads: it tells of a collapse, it tells of growth
when the grid comes back to the extent that it had, and it does not tell of growth beyond that.
-/

namespace ElasticGrid

variable {α : Type}

/-- The records tell of an axis that it grew from `c` lines to `n`, if these are more, and of no
collapse. -/
structure TellsGrowth (records : List Record) (axis : Axis) (c n : Nat) : Prop where
  stretched : ∀ added,
    (∃ size, Record.stretched axis added size ∈ records) ↔ c < n ∧ added = n - c
  standing : ∀ record ∈ records, record.message ≠ "matrix_collapsed"

theorem tellsGrowth_ite (axis : Axis) (c n : Nat) (size : Position) :
    TellsGrowth (if c < n then [.stretched axis (n - c) size] else []) axis c n := by
  by_cases hn : c < n
  · rw [if_pos hn]
    refine ⟨fun added => ⟨?_, ?_⟩, fun record hm => ?_⟩
    · rintro ⟨size', hm⟩
      exact ⟨hn, Record.added_of_stretched_eq (List.mem_singleton.1 hm)⟩
    · rintro ⟨-, rfl⟩
      exact ⟨size, List.mem_singleton_self _⟩
    · rw [List.mem_singleton.1 hm, Record.message_stretched]
      decide
  · rw [if_neg hn]
    exact ⟨fun added => iff_of_false (by simp) fun h => hn h.1, by simp⟩

theorem not_tellsGrowth_of_collapsed (other axis : Axis) (c n : Nat) (records : List Record) :
    ¬TellsGrowth (.collapsed other :: records) axis c n := fun h =>
  h.standing (.collapsed other) List.mem_cons_self (by cases other <;> rfl)

namespace Grid

variable {g : Grid α} {axis : Axis} {i : Nat}

/-- With another line beside it, a line that is replaced lets the grid grow once, if it has to. -/
theorem Rectangular.replacement_of_kept (hg : g.Rectangular) (hi : i < g.count axis)
    (hkept : 1 < g.count axis) (values : List (Option α)) :
    g.replacement axis i values =
      if g.count axis.cross < values.length then
        [.stretched axis.cross (values.length - g.count axis.cross)
          (axis.cross.position values.length (g.count axis - 1))]
      else [] := by
  have herase := hg.erase hi
  have hslot := hg.le_count_erase hi
  have hcount : (g.erase axis i).count axis = g.count axis - 1 := hg.count_erase hi
  have hcross : (g.erase axis i).count axis.cross = g.count axis.cross := by
    rw [hg.count_cross_erase hi, if_neg (Nat.ne_of_gt hkept)]
  have hstands : ¬(g.erase axis i).isEmpty := by
    rw [herase.isEmpty_iff axis, hcount]; omega
  have hwide : ¬((g.erase axis i).insert axis i values).count axis.cross < g.count axis.cross := by
    rw [herase.count_cross_insert hslot, hcross]; omega
  rw [replacement, collapse, if_neg hstands, growth, if_neg hwide, herase.insertion_eq, hcross,
    hcount, List.nil_append, List.append_nil]
  simp only [hstands, Bool.false_eq_true, not_false_eq_true, true_and]

/-- The only line leaves nothing behind, and the new one is put into the empty grid, of which
nothing is told. What is told is the way back to the old extent. -/
theorem Rectangular.replacement_of_only (hg : g.Rectangular) (hi : i < g.count axis)
    (honly : g.count axis = 1) (values : List (Option α)) :
    g.replacement axis i values = .collapsed axis ::
      if max values.length 1 < g.count axis.cross then
        [.stretched axis.cross (g.count axis.cross - max values.length 1)
          (axis.cross.position (g.count axis.cross) 1)]
      else [] := by
  have herase := hg.erase hi
  have hslot := hg.le_count_erase hi
  have hcount : (g.erase axis i).count axis = 0 := by rw [hg.count_erase hi, honly]
  have hempty : (g.erase axis i).isEmpty := (herase.isEmpty_iff axis).2 hcount
  have hcross : ((g.erase axis i).insert axis i values).count axis.cross = max values.length 1 := by
    rw [herase.count_cross_insert hslot, hg.count_cross_erase hi, if_pos honly]
    omega
  have hone : ((g.erase axis i).insert axis i values).count axis = 1 := by
    rw [herase.count_insert hslot, hcount]
  rw [replacement, collapse, if_pos hempty, insertion, if_pos hempty,
    (herase.insert hslot values).growth_eq (herase.columnCount_insert_pos hslot values), hcross,
    Axis.cross_cross, hone]
  rfl

end Grid

/-! ## Records of a replacement -/

namespace Workbook

variable [Content α] {book : Workbook α} {name : String} {axis : Axis} {index : Number} {i : Nat}

/-- **The journal tells what a replacement did, unless the line was the only one.** The grid is not
empty afterwards, and across the axis it is as long as the longer one of the two lines. Beside
another line the journal tells this growth and nothing else. Of the only line it tells a collapse,
then growth if the new line is shorter than the old one, but none if it is longer. -/
theorem Reached.replacement_told (hb : book.Reached) (hsheet : (book.sheet name).Verbose)
    (hindex : index.IsIndex i) (hi : i < (book.sheet name).grid.count axis)
    (values : List (Option α)) :
    let g := (book.sheet name).grid
    let c := g.count axis.cross
    let n := values.length
    let reply := book.replyTo name (.edit (.replace axis index values))
    reply.answer = .ok (.returned (.line (g.line axis i))) ∧
    ¬reply.sheet.grid.isEmpty ∧ reply.sheet.grid.count axis.cross = max c n ∧
    (1 < g.count axis → reply.records =
      if c < n then [.stretched axis.cross (n - c) (axis.cross.position n (g.count axis - 1))]
      else []) ∧
    (g.count axis = 1 → reply.records = .collapsed axis ::
      if max n 1 < c then [.stretched axis.cross (c - max n 1) (axis.cross.position c 1)]
      else []) ∧
    (TellsGrowth reply.records axis.cross c n ↔ 1 < g.count axis) := by
  intro g c n reply
  have hg : g.Rectangular := (hb name).rectangular
  have hpos : 0 < g.count axis := Nat.zero_lt_of_lt hi
  have hrun := Edit.run_replace_nth hg hindex hi values
  have hgrid : reply.sheet.grid = g.replace axis i values := congrArg (·.2.grid) hrun
  have hanswer : reply.answer = .ok (.returned (.line (g.line axis i))) :=
    congrArg (fun run => (run.1.map Answer.returned).mapError Fault.index) hrun
  have hrecords : reply.records = (g.replacement axis i values).map Event.record :=
    records_of_events hsheet (congrArg (·.2.events) hrun)
  have hkept : 1 < g.count axis → reply.records =
      if c < n then [.stretched axis.cross (n - c) (axis.cross.position n (g.count axis - 1))]
      else [] := fun hkept => by
    rw [hrecords, hg.replacement_of_kept hi hkept, apply_ite (List.map Event.record),
      List.map_singleton, Event.record_stretched]
    rfl
  have honly : g.count axis = 1 → reply.records = .collapsed axis ::
      if max n 1 < c then [.stretched axis.cross (c - max n 1) (axis.cross.position c 1)]
      else [] := fun honly => by
    rw [hrecords, hg.replacement_of_only hi honly, List.map_cons, Event.record_collapsed,
      apply_ite (List.map Event.record), List.map_singleton, Event.record_stretched]
    rfl
  refine ⟨hanswer, ?_, ?_, hkept, honly, ?_⟩
  · rw [hgrid, (hg.replace hi values).isEmpty_iff axis, hg.count_replace hi]
    exact Nat.ne_of_gt hpos
  · rw [hgrid, hg.count_cross_replace hi]
  · by_cases hmore : 1 < g.count axis
    · rw [hkept hmore]
      exact iff_of_true (tellsGrowth_ite _ _ _ _) hmore
    · rw [honly (Nat.le_antisymm (Nat.le_of_not_lt hmore) hpos)]
      exact iff_of_false (not_tellsGrowth_of_collapsed _ _ _ _ _) hmore

/-- A row of three cells in the place of one of two: beside another row, then as the only one. -/
theorem wide_row_told :
    let text (s : String) : Option Value := some (.text s)
    let sheet (rows : List (List (Option Value))) : Sheet Value :=
      ⟨(Source.ofLines .row rows).run.2.grid, some (.atLeast .debug), .null⟩
    let book := (empty.put "a" (sheet [[text "a", text "b"], [text "c"]])).put "b"
      (sheet [[text "a", text "b"]])
    let wide : Edit Value := .replace .row (.ofNat 0) [none, none, text "z"]
    book.Reached ∧ (book.sheet "a").Verbose ∧ (book.sheet "b").Verbose ∧
      (Number.ofNat 0).IsIndex 0 ∧ 0 < (book.sheet "a").grid.count .row ∧
      0 < (book.sheet "b").grid.count .row ∧
      (book.replyTo "a" (.edit wide)).records = [.stretched .column 1 ⟨3, 1⟩] ∧
      TellsGrowth (book.replyTo "a" (.edit wide)).records .column 2 3 ∧
      (book.replyTo "b" (.edit wide)).sheet.grid.count .column = 3 ∧
      (book.replyTo "b" (.edit wide)).records = [.collapsed .row] ∧
      ¬TellsGrowth (book.replyTo "b" (.edit wide)).records .column 2 3 := by
  intro text sheet book wide
  have hb : book.Reached := (reached_empty.put "a" (.built rfl)).put "b" (.built rfl)
  have hverbose : (book.sheet "a").Verbose := .inr rfl
  have hverbose' : (book.sheet "b").Verbose := .inr rfl
  have hindex : (Number.ofNat 0).IsIndex 0 := Number.isIndex_ofNat (by decide)
  have hrows : (book.sheet "a").grid.count .row = 2 := by decide +kernel
  have hrows' : (book.sheet "b").grid.count .row = 1 := by decide +kernel
  have hcolumns : (book.sheet "a").grid.count Axis.row.cross = 2 := by decide +kernel
  have hcolumns' : (book.sheet "b").grid.count Axis.row.cross = 2 := by decide +kernel
  clear_value book
  have hrow : 0 < (book.sheet "a").grid.count .row := hrows ▸ Nat.zero_lt_two
  have hrow' : 0 < (book.sheet "b").grid.count .row := hrows' ▸ Nat.one_pos
  have htold := hb.replacement_told hverbose hindex hrow [none, none, text "z"]
  have htold' := hb.replacement_told hverbose' hindex hrow' [none, none, text "z"]
  simp only [hrows, hcolumns] at htold
  simp only [hrows', hcolumns'] at htold'
  obtain ⟨-, -, -, hkept, -, hgrowth⟩ := htold
  obtain ⟨-, -, hwide, -, honly, hgrowth'⟩ := htold'
  exact ⟨hb, hverbose, hverbose', hindex, hrow, hrow', hkept Nat.one_lt_two,
    hgrowth.2 Nat.one_lt_two, hwide, honly trivial, fun h => Nat.lt_irrefl 1 (hgrowth'.1 h)⟩

/-- The only row is replaced by one of the same length, then by a shorter one. Nothing grows and
nothing is empty, but a collapse is told, and in the end growth as well. -/
theorem detour_told_of_only_row :
    let text (s : String) : Option Value := some (.text s)
    let book := empty.put "a" ⟨(Source.ofLines .row [[text "a", text "b"]]).run.2.grid,
      some (.atLeast .debug), .null⟩
    let same : Action Value := .edit (.replace .row (.ofNat 0) [text "x", text "y"])
    let short : Action Value := .edit (.replace .row (.ofNat 0) [text "x"])
    book.Reached ∧ (book.sheet "a").Verbose ∧ (book.sheet "a").grid.size = ⟨2, 1⟩ ∧
      (book.replyTo "a" same).sheet.grid.size = ⟨2, 1⟩ ∧
      (book.replyTo "a" short).sheet.grid.size = ⟨2, 1⟩ ∧
      (book.replyTo "a" same).records = [.collapsed .row] ∧
      ¬TellsGrowth (book.replyTo "a" same).records .column 2 2 ∧
      (book.replyTo "a" short).records = [.collapsed .row, .stretched .column 1 ⟨2, 1⟩] ∧
      ¬TellsGrowth (book.replyTo "a" short).records .column 2 1 := by
  intro text book same short
  have hsheet : (book.sheet "a").Verbose := .inr rfl
  have hevents : ((Edit.replace .row (.ofNat 0) [text "x", text "y"]).run
      (book.sheet "a").grid).2.events = [.collapsed .row] := by decide +kernel
  have hevents' : ((Edit.replace .row (.ofNat 0) [text "x"]).run (book.sheet "a").grid).2.events =
      [.collapsed .row, .stretched .column 1 ⟨2, 1⟩] := by decide +kernel
  have hsame : (book.replyTo "a" same).records = [.collapsed .row] :=
    records_of_events hsheet hevents
  have hshort : (book.replyTo "a" short).records =
      [.collapsed .row, .stretched .column 1 ⟨2, 1⟩] := records_of_events hsheet hevents'
  refine ⟨reached_empty.put "a" (.built rfl), hsheet, by decide +kernel, by decide +kernel,
    by decide +kernel, hsame, ?_, hshort, ?_⟩
  · rw [hsame]
    exact not_tellsGrowth_of_collapsed _ _ _ _ _
  · rw [hshort]
    exact not_tellsGrowth_of_collapsed _ _ _ _ _

end Workbook

end ElasticGrid
