import ElasticGrid.Proofs.Duality
import ElasticGrid.Proofs.Lines

/-!
# Grids that are written out

A list of rows or of columns is the picture of a grid: the grid that is built from it has a
line for each line of the list, and each line is filled up with absent cells to the length of
the longest. The lines go in one after the other, so the longest line may come late; then all
lines before it are filled up once more (`columns_appendLine`). In the end it does not show
when that happened (`lines_foldl_appendLine`).

This is shown for columns. For rows it follows by a flip.
-/

namespace ElasticGrid

variable {α β : Type}

def longest (lines : List (List β)) : Nat := (lines.map List.length).foldr max 0

/-- The lines, each filled up with absent cells to the length of the longest. -/
def evened (lines : List (List (Option α))) : List (List (Option α)) :=
  lines.map fun line => line.rightpad (longest lines) none

theorem longest_append (lines lines' : List (List β)) :
    longest (lines ++ lines') = max (longest lines) (longest lines') := by
  induction lines with
  | nil => exact (Nat.zero_max _).symm
  | cons line lines ih =>
    show max line.length (longest (lines ++ lines')) = max (max line.length (longest lines)) _
    rw [ih, Nat.max_assoc]

theorem length_le_longest {lines : List (List β)} {line : List β} (hm : line ∈ lines) :
    line.length ≤ longest lines := by
  obtain ⟨before, after, rfl⟩ := List.append_of_mem hm
  rw [longest_append]
  exact Nat.le_trans (Nat.le_max_left line.length (longest after)) (Nat.le_max_right _ _)

theorem longest_of_lengths {lines : List (List β)} {n : Nat} (hne : lines ≠ [])
    (hn : ∀ line ∈ lines, line.length = n) : longest lines = n := by
  induction lines with
  | nil => exact absurd rfl hne
  | cons line lines ih =>
    show max line.length (longest lines) = n
    have hline := hn line List.mem_cons_self
    rcases lines with _ | ⟨next, lines⟩
    · exact (Nat.max_zero _).trans hline
    · rw [ih (List.cons_ne_nil _ _) fun line hm => hn line (List.mem_cons_of_mem _ hm), hline,
        Nat.max_self]

theorem evened_of_lengths {lines : List (List (Option α))} {n : Nat}
    (hn : ∀ line ∈ lines, line.length = n) : evened lines = lines := by
  rcases eq_or_ne lines [] with rfl | hne
  · rfl
  · exact filled_of_lengths (by rwa [longest_of_lengths hne hn])

namespace Grid

variable {g : Grid α} {axis : Axis} {lines : List (List (Option α))}

theorem Rectangular.read_evened (hg : g.Rectangular) (hlines : g.lines axis = evened lines)
    (hne : lines ≠ []) :
    g.count axis = lines.length ∧ g.count axis.cross = longest lines ∧
      ∀ i j, g.cell (axis.position i j).x (axis.position i j).y = (lines.getD i []).getD j none := by
  refine ⟨?_, ?_, fun i j => ?_⟩
  · rw [← length_lines, hlines, evened, List.length_map]
  · obtain ⟨line, rest, rfl⟩ := List.exists_cons_of_ne_nil hne
    have hm : line.rightpad (longest (line :: rest)) none ∈ g.lines axis := by
      rw [hlines]
      exact List.mem_map_of_mem List.mem_cons_self
    rw [← hg.length_of_mem_lines hm, List.length_rightpad]
    exact Nat.max_eq_left (length_le_longest List.mem_cons_self)
  · rw [← hg.lines_cell, hlines]
    exact getD_getD_filled (longest lines) lines i j

end Grid

namespace Source

open Editing

/-! ## One line after the other -/

variable {axis : Axis} {d : Draft α} {lines : List (List (Option α))}

/-- One more column evens out the columns before it. -/
theorem columns_appendLine {before : List (List (Option α))} {line : List (Option α)}
    (hd : d.grid.columns = evened before) (hne : line ≠ []) :
    (appendLine .column d line).grid.columns = evened (before ++ [line]) := by
  have hrows : d.grid.rowCount = longest before := by
    rw [Grid.rowCount, hd]
    cases before with
    | nil => rfl
    | cons first rest =>
      show (first.rightpad _ none).length = _
      rw [List.length_rightpad]
      exact Nat.max_eq_left (length_le_longest List.mem_cons_self)
  have hheight : max d.grid.rowCount (max line.length 1) = longest (before ++ [line]) := by
    have hpos := List.length_pos_iff.2 hne
    rw [longest_append, hrows]
    show _ = max _ (max line.length 0)
    omega
  have hlong : longest before ≤ longest (before ++ [line]) := by
    rw [longest_append]; exact Nat.le_max_left _ _
  have hgrown : (d.grid.heighten (longest (before ++ [line]))).columns =
      before.map fun line' => line'.rightpad (longest (before ++ [line])) none := by
    rw [Grid.heighten, hd, evened, List.map_map]
    exact List.map_congr_left fun _ _ => Grid.rightpad_rightpad hlong
  have hcount : d.grid.columnCount = (d.grid.heighten (longest (before ++ [line]))).columns.length :=
    (d.grid.columnCount_heighten _).symm
  rw [appendLine, if_neg (by simpa using hne)]
  show (d.grid.insertColumn d.grid.columnCount line).columns = _
  rw [Grid.insertColumn, hheight, hcount, List.insertIdx_length_self, hgrown, evened,
    List.map_append]
  rfl

/-- Columns that are put in one after the other stand there evened out. -/
theorem columns_foldl_appendLine {before : List (List (Option α))}
    (hd : d.grid.columns = evened before) (hne : [] ∉ lines) :
    (lines.foldl (appendLine .column) d).grid.columns = evened (before ++ lines) := by
  induction lines generalizing d before with
  | nil => rw [List.append_nil]; exact hd
  | cons line lines ih =>
    obtain ⟨hline, hrest⟩ := List.ne_and_not_mem_of_not_mem_cons hne
    rw [List.append_cons]
    exact ih (columns_appendLine hd (Ne.symm hline)) hrest

theorem lines_foldl_appendLine (axis : Axis) (hne : [] ∉ lines) :
    (lines.foldl (appendLine axis) ⟨.empty, []⟩).grid.lines axis = evened lines := by
  have hcolumns : (lines.foldl (appendLine .column) ⟨.empty, []⟩).grid.columns = evened lines :=
    columns_foldl_appendLine (show _ = evened [] from rfl) hne
  cases axis
  · exact hcolumns
  · have hcross := foldl_appendLine_cross (d := ⟨(.empty : Grid α), []⟩) Grid.rectangular_empty
      .column lines
    have hr := rectangular_foldl_appendLine (d := ⟨(.empty : Grid α), []⟩) Grid.rectangular_empty
      .column lines
    show (lines.foldl (appendLine Axis.column.cross) (Draft.cross ⟨.empty, []⟩)).grid.lines
      Axis.column.cross = _
    rw [hcross]
    exact (hr.lines_flip .column).trans hcolumns

/-- Empty lines leave no trace. -/
theorem foldl_appendLine_of_empty (hempty : ∀ line ∈ lines, line = []) (d : Draft α) :
    lines.foldl (appendLine axis) d = d := by
  induction lines with
  | nil => rfl
  | cons line lines ih =>
    rw [List.foldl_cons, hempty line List.mem_cons_self]
    exact ih fun line hm => hempty line (List.mem_cons_of_mem _ hm)

/-! ## What is accepted -/

/-- Lines are accepted if all of them are empty or none is; else the first empty one is refused. -/
theorem requireEven_cases (axis : Axis) (lines : List (List (Option α))) :
    requireEven axis lines = .ok () ∧ ((∀ line ∈ lines, line = []) ∨ [] ∉ lines) ∨
      ∃ position, requireEven axis lines = .error (.emptyLine axis position) ∧
        lines[position]? = some [] ∧ (∀ i < position, lines[i]? ≠ some []) ∧
        ∃ line ∈ lines, line ≠ [] := by
  unfold requireEven
  cases hfound : lines.findIdx? List.isEmpty with
  | none =>
    rw [List.findIdx?_eq_none_iff] at hfound
    exact .inl ⟨rfl, .inr fun hm => Bool.noConfusion (hfound [] hm)⟩
  | some position =>
    obtain ⟨hlt, hempty, hfirst⟩ := List.findIdx?_eq_some_iff_getElem.1 hfound
    simp only [List.isEmpty_iff] at hempty hfirst
    dsimp only
    by_cases hall : ∀ line ∈ lines, line = []
    · rw [if_pos (by simpa using hall)]
      exact .inl ⟨rfl, .inl hall⟩
    · rw [if_neg (by simpa using hall)]
      refine .inr ⟨position, rfl, ?_, fun i hi hsome => ?_, by simpa using hall⟩
      · rw [List.getElem?_eq_getElem hlt, hempty]
      · exact hfirst i hi (Option.some.inj ((List.getElem?_eq_getElem _).symm.trans hsome))

theorem run_ofLines_cases (axis : Axis) (lines : List (List (Option α))) :
    (ofLines axis lines).run = (.ok (), lines.foldl (appendLine axis) ⟨.empty, []⟩) ∧
        ((∀ line ∈ lines, line = []) ∨ [] ∉ lines) ∨
      ∃ position, (ofLines axis lines).run.1 = .error (.emptyLine axis position) ∧
        lines[position]? = some [] ∧ (∀ i < position, lines[i]? ≠ some []) ∧
        ∃ line ∈ lines, line ≠ [] := by
  rw [run_ofLines]
  rcases requireEven_cases axis lines with ⟨hok, haccepted⟩ | ⟨position, herror, hrefused⟩
  · rw [hok]
    exact .inl ⟨rfl, haccepted⟩
  · rw [herror]
    exact .inr ⟨position, rfl, hrefused⟩

theorem run_ofLines_of_accepted (axis : Axis)
    (haccepted : (∀ line ∈ lines, line = []) ∨ [] ∉ lines) :
    (ofLines axis lines).run = (.ok (), lines.foldl (appendLine axis) ⟨.empty, []⟩) := by
  rcases run_ofLines_cases axis lines with ⟨hrun, -⟩ | ⟨position, -, hempty, -, line, hm, hne⟩
  · exact hrun
  · exact (haccepted.elim (fun hall => hne (hall line hm))
      fun hnone => hnone (List.mem_of_getElem? hempty)).elim

theorem run_ofLines_refused_iff (axis : Axis) (lines : List (List (Option α))) :
    (∃ fault, (ofLines axis lines).run.1 = .error fault) ↔ [] ∈ lines ∧ ∃ line ∈ lines, line ≠ [] := by
  rcases run_ofLines_cases axis lines with
    ⟨hrun, haccepted⟩ | ⟨position, hrefused, hempty, -, hother⟩
  · refine iff_of_false (fun ⟨fault, h⟩ => ?_) fun ⟨hm, line, hline, hne⟩ => ?_
    · rw [hrun] at h
      cases h
    · exact haccepted.elim (fun hall => hne (hall line hline)) fun hnone => hnone hm
  · exact iff_of_true ⟨_, hrefused⟩ ⟨List.mem_of_getElem? hempty, hother⟩

theorem fault_of_run_ofLines {fault : IndexFault}
    (hfault : (ofLines axis lines).run.1 = .error fault) :
    ∃ position, fault = .emptyLine axis position ∧ fault.report.index = .ofNat position ∧
      fault.report.limit = none ∧ lines[position]? = some [] ∧
      ∀ i < position, lines[i]? ≠ some [] := by
  rcases run_ofLines_cases axis lines with ⟨hrun, -⟩ | ⟨position, hrefused, hempty, hfirst, -⟩
  · rw [hrun] at hfault
    cases hfault
  · obtain rfl := Except.error.inj (hfault.symm.trans hrefused)
    exact ⟨position, rfl, rfl, rfl, hempty, hfirst⟩

theorem run_ofLines_of_empty (axis : Axis) (hempty : ∀ line ∈ lines, line = []) :
    (ofLines axis lines).run.1 = .ok () ∧ (ofLines axis lines).run.2.grid = .empty := by
  rw [run_ofLines_of_accepted axis (.inl hempty), foldl_appendLine_of_empty hempty]
  exact ⟨rfl, rfl⟩

/-- Lines that are accepted are shown, each filled up with absent cells. -/
theorem run_ofLines_shows (axis : Axis) (hne : lines ≠ []) (hnone : [] ∉ lines) :
    let built := (ofLines axis lines).run
    built.1 = .ok () ∧ built.2.grid.count axis = lines.length ∧
      built.2.grid.count axis.cross = longest lines ∧
      ∀ i j, built.2.grid.cell (axis.position i j).x (axis.position i j).y =
        (lines.getD i []).getD j none := by
  rw [run_ofLines_of_accepted axis (.inr hnone)]
  exact ⟨rfl, (rectangular_foldl_appendLine Grid.rectangular_empty axis lines).read_evened
    (lines_foldl_appendLine axis hnone) hne⟩

/-- Lines of one length are the lines of what is built from them. -/
theorem lines_run_ofLines (axis : Axis) {n : Nat} (hpos : 0 < n)
    (hn : ∀ line ∈ lines, line.length = n) :
    (ofLines axis lines).run.1 = .ok () ∧ (ofLines axis lines).run.2.grid.lines axis = lines := by
  have hne : [] ∉ lines := fun hm => by
    have := hn [] hm
    rw [List.length_nil] at this
    omega
  rw [run_ofLines_of_accepted axis (.inr hne)]
  exact ⟨rfl, (lines_foldl_appendLine axis hne).trans (evened_of_lengths hn)⟩

/-- A grid is built from its own lines. -/
theorem run_ofLines_lines {g : Grid α} (hg : g.Rectangular) (axis : Axis) :
    (ofLines axis (g.lines axis)).run.1 = .ok () ∧
      (ofLines axis (g.lines axis)).run.2.grid = g := by
  have hlines : (ofLines axis (g.lines axis)).run.1 = .ok () ∧
      (ofLines axis (g.lines axis)).run.2.grid.lines axis = g.lines axis := by
    by_cases hcount : g.count axis.cross = 0
    · -- Without a line across the axis there is none along it either.
      have hzero : g.count axis = 0 := by
        have := hg.columnCount_eq_zero_iff
        cases axis
        · exact this.2 hcount
        · exact this.1 hcount
      rw [List.eq_nil_of_length_eq_zero ((g.length_lines axis).trans hzero)]
      exact ⟨rfl, by cases axis <;> rfl⟩
    · exact lines_run_ofLines axis (Nat.pos_of_ne_zero hcount) fun _ hm => hg.length_of_mem_lines hm
  exact ⟨hlines.1, (rectangular_run _).eq_of_lines hg hlines.2⟩

/-- **Grids that are written out are what they look like.** Lines are refused if some but not all
of them are empty, with a report on the first empty one. Else they are the lines of the grid that
is built from them, filled up with absent cells. So a grid is built from its own lines, and lines
of one length are read back. -/
theorem literals_build_what_they_show (axis : Axis) (lines : List (List (Option α))) :
    let built := (ofLines axis lines).run
    ((∃ fault, built.1 = .error fault) ↔ [] ∈ lines ∧ ∃ line ∈ lines, line ≠ []) ∧
    (∀ fault, built.1 = .error fault → ∃ position, fault = .emptyLine axis position ∧
      fault.report.index = .ofNat position ∧ fault.report.limit = none ∧
      lines[position]? = some [] ∧ ∀ i < position, lines[i]? ≠ some []) ∧
    ((∀ line ∈ lines, line = []) → built.1 = .ok () ∧ built.2.grid = .empty) ∧
    (lines ≠ [] → [] ∉ lines → built.1 = .ok () ∧ built.2.grid.count axis = lines.length ∧
      built.2.grid.count axis.cross = longest lines ∧
      ∀ i j, built.2.grid.cell (axis.position i j).x (axis.position i j).y =
        (lines.getD i []).getD j none) ∧
    (∀ n, 0 < n → (∀ line ∈ lines, line.length = n) →
      built.1 = .ok () ∧ built.2.grid.lines axis = lines) ∧
    ∀ g : Grid α, g.Reachable → (ofLines axis (g.lines axis)).run.1 = .ok () ∧
      (ofLines axis (g.lines axis)).run.2.grid = g := by
  intro built
  exact ⟨run_ofLines_refused_iff axis lines, fun fault hfault => fault_of_run_ofLines hfault,
    fun hempty => run_ofLines_of_empty axis hempty, fun hne hnone => run_ofLines_shows axis hne hnone,
    fun n hpos hn => lines_run_ofLines axis hpos hn,
    fun g hg => run_ofLines_lines hg.rectangular axis⟩

/-- Rows of one, two and one cell make a grid of two columns. With an empty row before them they
are refused, and a grid that was flipped is built from its own columns. -/
theorem short_rows_filled_up :
    let rows : List (List (Option Value)) := [[some (.whole 1)], [none, some (.whole 2)], [none]]
    let built := (ofLines .row rows).run
    let flipped := (Edit.flip.run built.2.grid).2.grid
    (rows ≠ [] ∧ [] ∉ rows ∧ built.1 = .ok () ∧ built.2.grid.count .row = 3 ∧
      built.2.grid.count .column = 2 ∧
      ∀ y x, built.2.grid.cell x y = (rows.getD y []).getD x none) ∧
    (∃ position, (ofLines .row ([] :: rows)).run.1 = .error (.emptyLine .row position)) ∧
    flipped.Reachable ∧ (ofLines .column flipped.columns).run.2.grid = flipped := by
  intro rows built flipped
  have hne : rows ≠ [] := List.cons_ne_nil _ _
  have hnone : [] ∉ rows := by decide
  have hflipped : flipped.Reachable := .edited .flip (.built rfl)
  obtain ⟨-, -, -, hshown, -, -⟩ := literals_build_what_they_show .row rows
  obtain ⟨hrefused, hfirst, -⟩ := literals_build_what_they_show .row ([] :: rows)
  obtain ⟨-, -, -, -, -, hown⟩ := literals_build_what_they_show .column flipped.columns
  obtain ⟨fault, hfault⟩ := hrefused.2 ⟨List.mem_cons_self, [some (.whole 1)], by decide, by decide⟩
  obtain ⟨position, rfl, -⟩ := hfirst fault hfault
  exact ⟨⟨hne, hnone, hshown hne hnone⟩, ⟨position, hfault⟩, hflipped, (hown flipped hflipped).2⟩

end Source

end ElasticGrid
