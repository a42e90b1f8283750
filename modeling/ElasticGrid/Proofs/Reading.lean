import ElasticGrid.Proofs.Runs
import ElasticGrid.Value

/-!
# Reading a drawing

A drawing without padding can be read back if its two delimiters are characters that no text
contains: parted at the one, then at the other, it gives the texts of all cells, row by row. What
a drawing loses are the blanks at the end of a line and of the whole. There are none if the
delimiters are no blanks and no text of the last column ends in one: a line then ends in its last
text or in a delimiter, and so does the whole.
-/

namespace ElasticGrid

variable {α γ : Type}

namespace Text

def EndsBlank (s : List Char) : Prop := ∃ c ∈ s.getLast?, isBlank c

instance (s : List Char) : Decidable (EndsBlank s) := Option.decidableExistsMem _

theorem trimEnd_eq_self_iff {s : List Char} : trimEnd s = s ↔ ¬EndsBlank s := by
  rw [trimEnd, dropTrailing_eq_self_iff]
  simp [EndsBlank]

theorem endsBlank_append_cons {s t : List Char} {c : Char} :
    EndsBlank (s ++ c :: t) ↔ EndsBlank (c :: t) := by
  rw [EndsBlank, EndsBlank, List.getLast?_append, List.getLast?_cons, Option.some_or]

/-- Pieces between delimiters end in the last piece or, if that is empty, in a delimiter. -/
theorem not_endsBlank_intercalate {c : Char} (hc : ¬isBlank c) {pieces : List (List Char)}
    (hlast : ∀ piece, pieces.getLast? = some piece → ¬EndsBlank piece) :
    ¬EndsBlank ([c].intercalate pieces) := by
  induction pieces with
  | nil => rintro ⟨_, h, -⟩; cases h
  | cons piece pieces ih =>
    rcases pieces with _ | ⟨next, pieces⟩
    · rw [List.intercalate_singleton]
      exact hlast piece rfl
    · have hrest := ih fun piece h => hlast piece (by rwa [List.getLast?_cons_cons])
      rw [List.intercalate_cons_cons, List.append_assoc, List.singleton_append,
        endsBlank_append_cons]
      rcases hjoined : [c].intercalate (next :: pieces) with _ | ⟨d, joined⟩
      · rintro ⟨_, h, hblank⟩
        obtain rfl := Option.some.inj h
        exact hc hblank
      · rw [hjoined] at hrest
        rwa [← List.singleton_append, endsBlank_append_cons]

/-- The parts of a text between the one character, each parted at the other. -/
def table (cell row : Char) (s : List Char) : List (List (List Char)) :=
  (s.splitOn row).map fun part => part.splitOn cell

theorem mem_of_mem_intercalate {c d : Char} {pieces : List (List Char)}
    (h : d ∈ [c].intercalate pieces) : d = c ∨ ∃ piece ∈ pieces, d ∈ piece := by
  induction pieces with
  | nil => cases h
  | cons piece pieces ih =>
    rcases pieces with _ | ⟨next, pieces⟩
    · rw [List.intercalate_singleton] at h
      exact .inr ⟨piece, List.mem_cons_self, h⟩
    · rw [List.intercalate_cons_cons, List.append_assoc, List.singleton_append, List.mem_append,
        List.mem_cons] at h
      rcases h with hd | rfl | hd
      · exact .inr ⟨piece, List.mem_cons_self, hd⟩
      · exact .inl rfl
      · refine (ih hd).imp_right ?_
        rintro ⟨found, hm, hd⟩
        exact ⟨found, List.mem_cons_of_mem _ hm, hd⟩

/-- Texts that do not contain the delimiters are found again between them. -/
theorem table_intercalate {cell row : Char} (hne : cell ≠ row) {texts : List (List (List Char))}
    (hrows : texts ≠ []) (hcells : [] ∉ texts)
    (happart : ∀ line ∈ texts, ∀ text ∈ line, cell ∉ text ∧ row ∉ text) :
    table cell row ([row].intercalate (texts.map [cell].intercalate)) = texts := by
  have hclean : ∀ line ∈ texts.map [cell].intercalate, row ∉ line := by
    intro joined hm hrow
    obtain ⟨line, hline, rfl⟩ := List.mem_map.1 hm
    rcases mem_of_mem_intercalate hrow with heq | ⟨text, htext, hrow⟩
    · exact hne heq.symm
    · exact (happart line hline text htext).2 hrow
  have hline : ∀ line ∈ texts, ([cell].intercalate line).splitOn cell = id line := fun line hm =>
    List.splitOn_intercalate cell (fun text ht => (happart line hm text ht).1)
      fun hnil => hcells (hnil ▸ hm)
  rw [table, List.splitOn_intercalate row hclean (by simpa using hrows), List.map_map]
  exact (List.map_congr_left hline).trans (List.map_id texts)

end Text

/-! ## Texts of a grid -/

namespace Grid

variable {g : Grid α} {style : Style} {cell row : Char}

/-- Cutting across columns of texts is cutting across the columns of cells. -/
theorem Rectangular.crosscut_map (hg : g.Rectangular) (f : Option α → γ) (d : γ) :
    crosscut d ((g.columns.map (List.map f)).headD []).length (g.columns.map (List.map f)) =
      g.rows.map (List.map f) := by
  have hlength : ((g.columns.map (List.map f)).headD []).length = g.rowCount := by
    rw [rowCount]
    cases g.columns with
    | nil => rfl
    | cons column columns => exact List.length_map _
  rw [hlength, crosscut_eq_map_range, rows_eq_map_row, List.map_map]
  refine List.map_congr_left fun y hy => ?_
  rw [Function.comp_apply, row, List.map_map, List.map_map]
  refine List.map_congr_left fun column hm => ?_
  have hy : y < column.length := by rw [hg.length_of_mem hm]; exact List.mem_range.1 hy
  simp [List.getD_eq_getElem?_getD, hy]

section
variable [Content α]

def texts (style : Style) (g : Grid α) : List (List (List Char)) :=
  g.rows.map (List.map (style.cellText Content.text))

/-- What makes the drawing of a grid readable. -/
structure ReadableIn (g : Grid α) (style : Style) (cell row : Char) : Prop where
  unpadded : style.padCells = false
  cellDelimiter : style.cellDelimiter = String.singleton cell
  rowDelimiter : style.rowDelimiter = String.singleton row
  distinct : cell ≠ row
  cell_not_blank : ¬Text.isBlank cell
  row_not_blank : ¬Text.isBlank row
  apart : ∀ x < g.columnCount, ∀ y < g.rowCount,
    cell ∉ style.cellText Content.text (g.cell x y) ∧ row ∉ style.cellText Content.text (g.cell x y)
  last : ∀ y < g.rowCount,
    ¬Text.EndsBlank (style.cellText Content.text (g.cell (g.columnCount - 1) y))

theorem Rectangular.draw_unpadded (hg : g.Rectangular) (hpad : style.padCells = false) :
    style.draw Content.text g.columns =
      String.ofList (style.joinLines ((g.texts style).map fun cells =>
        Text.trimEnd (style.fullLine cells))) := by
  rw [Style.draw, Style.columnTexts, hpad, if_neg Bool.false_ne_true, Style.textLines,
    hg.crosscut_map]
  rfl

theorem length_texts (g : Grid α) (style : Style) : (g.texts style).length = g.rowCount := by
  rw [texts, List.length_map, length_rows]

theorem mem_texts {line : List (List Char)} :
    line ∈ g.texts style ↔ ∃ y < g.rowCount, line = (g.row y).map (style.cellText Content.text) := by
  simp only [texts, rows_eq_map_row, List.map_map, List.mem_map, List.mem_range, Function.comp_apply]
  exact exists_congr fun y => and_congr_right fun _ => eq_comm

omit [Content α] in
theorem getElem?_row (g : Grid α) {x : Nat} (hx : x < g.columnCount) (y : Nat) :
    (g.row y)[x]? = some (g.cell x y) := by
  have hlt : x < (g.row y).length := by rwa [length_row]
  rw [← getD_row, List.getD_eq_getElem?_getD, List.getElem?_eq_getElem hlt, Option.getD_some]

theorem getD_texts (g : Grid α) (style : Style) {x y : Nat} (hx : x < g.columnCount)
    (hy : y < g.rowCount) :
    ((g.texts style).getD y []).getD x [] = style.cellText Content.text (g.cell x y) := by
  have hrow : (g.texts style).getD y [] = (g.row y).map (style.cellText Content.text) := by
    simp [texts, rows_eq_map_row, List.getD_eq_getElem?_getD, hy]
  rw [hrow, List.getD_eq_getElem?_getD, List.getElem?_map, g.getElem?_row hx y]
  rfl

theorem length_of_mem_texts {line : List (List Char)} (hm : line ∈ g.texts style) :
    line.length = g.columnCount := by
  obtain ⟨y, -, rfl⟩ := mem_texts.1 hm
  rw [List.length_map, length_row]

namespace ReadableIn

theorem not_endsBlank_line (h : g.ReadableIn style cell row) (hne : 0 < g.columnCount)
    {line : List (List Char)} (hm : line ∈ g.texts style) :
    ¬Text.EndsBlank ([cell].intercalate line) := by
  obtain ⟨y, hy, rfl⟩ := mem_texts.1 hm
  refine Text.not_endsBlank_intercalate h.cell_not_blank fun piece hpiece => ?_
  rw [List.getLast?_map, List.getLast?_eq_getElem?, length_row,
    g.getElem?_row (Nat.sub_lt hne Nat.one_pos), Option.map_some, Option.some_inj] at hpiece
  exact hpiece ▸ h.last y hy

/-- Nothing is left out of the drawing. -/
theorem draw_eq (h : g.ReadableIn style cell row) (hg : g.Rectangular) (hne : 0 < g.columnCount) :
    (style.draw Content.text g.columns).toList =
      [row].intercalate ((g.texts style).map [cell].intercalate) := by
  have hlines : (g.texts style).map (fun line => Text.trimEnd (style.fullLine line)) =
      (g.texts style).map [cell].intercalate := by
    refine List.map_congr_left fun line hm => ?_
    rw [Style.fullLine, h.cellDelimiter, String.toList_singleton]
    exact Text.trimEnd_eq_self_iff.2 (h.not_endsBlank_line hne hm)
  rw [hg.draw_unpadded h.unpadded, String.toList_ofList, hlines, Style.joinLines, h.rowDelimiter,
    String.toList_singleton, Text.trimEnd_eq_self_iff]
  refine Text.not_endsBlank_intercalate h.row_not_blank fun piece hpiece => ?_
  obtain ⟨line, hm, rfl⟩ := List.mem_map.1 (List.mem_of_getLast? hpiece)
  exact h.not_endsBlank_line hne hm

/-- Parted at the delimiters, the drawing gives the texts of all cells. -/
theorem table_draw (h : g.ReadableIn style cell row) (hg : g.Rectangular)
    (hne : 0 < g.columnCount) :
    Text.table cell row (style.draw Content.text g.columns).toList = g.texts style := by
  rw [h.draw_eq hg hne]
  refine Text.table_intercalate h.distinct ?_ ?_ ?_
  · have := hg.columnCount_eq_zero_iff
    rw [← List.length_pos_iff, length_texts]
    omega
  · intro hm
    have := length_of_mem_texts hm
    rw [List.length_nil] at this
    omega
  · intro line hm text htext
    obtain ⟨y, hy, rfl⟩ := mem_texts.1 hm
    obtain ⟨value, hvalue, rfl⟩ := List.mem_map.1 htext
    obtain ⟨x, hx⟩ := List.mem_iff_getElem?.1 hvalue
    have hlt : x < g.columnCount := by
      rw [← g.length_row y]
      exact (List.getElem?_eq_some_iff.1 hx).1
    rw [g.getElem?_row hlt, Option.some_inj] at hx
    exact hx ▸ h.apart x hlt y hy

/-- Two grids with the same drawing show the same. -/
theorem same_of_draw {h : Grid α} (hread : g.ReadableIn style cell row)
    (hread' : h.ReadableIn style cell row) (hg : g.Rectangular) (hh : h.Rectangular)
    (hne : 0 < g.columnCount) (hne' : 0 < h.columnCount)
    (hdraw : style.draw Content.text g.columns = style.draw Content.text h.columns) :
    g.size = h.size ∧ ∀ x < g.columnCount, ∀ y < g.rowCount,
      style.cellText Content.text (g.cell x y) = style.cellText Content.text (h.cell x y) := by
  have htexts : g.texts style = h.texts style := by
    rw [← hread.table_draw hg hne, ← hread'.table_draw hh hne', hdraw]
  have hrows : g.rowCount = h.rowCount := by rw [← g.length_texts style, htexts, length_texts]
  have hcolumns : g.columnCount = h.columnCount := by
    have hpos : 0 < g.rowCount := by have := hg.columnCount_eq_zero_iff; omega
    have hm : (g.row 0).map (style.cellText Content.text) ∈ g.texts style :=
      mem_texts.2 ⟨0, hpos, rfl⟩
    rw [htexts] at hm
    rw [← length_of_mem_texts hm, List.length_map, length_row]
  refine ⟨by rw [size, size, hrows, hcolumns], fun x hx y hy => ?_⟩
  rw [← g.getD_texts style hx hy, htexts, h.getD_texts style (hcolumns ▸ hx) (hrows ▸ hy)]

end ReadableIn

end

end Grid

/-! ## Drawings of sheets -/

/-- **A readable drawing can be read back.** Parted at its two delimiters it is the table of the
texts of all cells; hence sheets with the same drawing have the same size and the same texts. -/
theorem Sheet.drawing_reads_back [Content α] {sheet : Sheet α} (hg : sheet.grid.Reachable)
    (hne : ¬sheet.grid.isEmpty) {overrides : Datum} {style : Style}
    (hstyle : Style.resolve [sheet.style, overrides] = .ok style) {cell row : Char}
    (hread : sheet.grid.ReadableIn style cell row) :
    ∃ drawing, sheet.draw overrides = .ok drawing ∧
      Text.table cell row drawing.toList = sheet.grid.texts style ∧
      (sheet.grid.texts style).length = sheet.grid.rowCount ∧
      (∀ line ∈ sheet.grid.texts style, line.length = sheet.grid.columnCount) ∧
      (∀ x < sheet.grid.columnCount, ∀ y < sheet.grid.rowCount,
        ((sheet.grid.texts style).getD y []).getD x [] =
          style.cellText Content.text (sheet.grid.cell x y)) ∧
      ∀ (other : Sheet α) (overrides' : Datum), other.grid.Reachable → ¬other.grid.isEmpty →
        Style.resolve [other.style, overrides'] = .ok style →
        other.grid.ReadableIn style cell row → other.draw overrides' = .ok drawing →
        sheet.grid.size = other.grid.size ∧
          ∀ x < sheet.grid.columnCount, ∀ y < sheet.grid.rowCount,
            style.cellText Content.text (sheet.grid.cell x y) =
              style.cellText Content.text (other.grid.cell x y) := by
  have hdraw : ∀ (s : Sheet α) (data : Datum), Style.resolve [s.style, data] = .ok style →
      s.draw data = .ok (style.draw Content.text s.grid.columns) := by
    intro s data h
    rw [draw, h]
    rfl
  rw [Grid.isEmpty_iff_columnCount] at hne
  have hpos := Nat.pos_of_ne_zero hne
  refine ⟨_, hdraw sheet overrides hstyle, hread.table_draw hg.rectangular hpos,
    sheet.grid.length_texts style, fun line hm => Grid.length_of_mem_texts hm,
    fun x hx y hy => sheet.grid.getD_texts style hx hy, ?_⟩
  intro other overrides' hother hne' hstyle' hread' hsame
  rw [Grid.isEmpty_iff_columnCount] at hne'
  rw [hdraw other overrides' hstyle'] at hsame
  exact hread.same_of_draw hread' hg.rectangular hother.rectangular hpos
    (Nat.pos_of_ne_zero hne') (Except.ok.inj hsame).symm

/-- Blanks inside a line, an absent cell and a last row without any text are all found again. -/
theorem commas_and_bars_read_back :
    let rows : List (List (Option Value)) :=
      [[some (.text " a "), none], [some (.truth true), some (.text " b")], [some (.text ""), none]]
    let style : Style := ⟨",", "|", "", false⟩
    let sheet : Sheet Value := ⟨(Source.ofLines .row rows).run.2.grid, none, style.layer.toDatum⟩
    sheet.grid.Reachable ∧ ¬sheet.grid.isEmpty ∧
      Style.resolve [sheet.style, .null] = .ok style ∧ sheet.grid.ReadableIn style ',' '|' ∧
      ∃ drawing, sheet.draw .null = .ok drawing ∧ Text.table ',' '|' drawing.toList =
        [[" a ".toList, []], ["true".toList, " b".toList], [[], []]] := by
  intro rows style sheet
  have hg : sheet.grid.Reachable := .built rfl
  have hne : ¬sheet.grid.isEmpty := by decide
  have hstyle : Style.resolve [sheet.style, .null] = .ok style := by rfl
  have hread : sheet.grid.ReadableIn style ',' '|' := by constructor <;> decide
  obtain ⟨drawing, hdrawing, htable, -⟩ := sheet.drawing_reads_back hg hne hstyle hread
  have htexts : sheet.grid.texts style =
      [[" a ".toList, []], ["true".toList, " b".toList], [[], []]] := by decide
  exact ⟨hg, hne, hstyle, hread, drawing, hdrawing, htable.trans htexts⟩

end ElasticGrid
