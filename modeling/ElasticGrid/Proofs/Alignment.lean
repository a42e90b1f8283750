import ElasticGrid.Style.Drawing
import ElasticGrid.Value
import Mathlib.Algebra.GroupWithZero.Nat
import Mathlib.Order.Bounds.Defs

/-!
# Lines of padded columns

Before anything is trimmed, a line of padded columns is as wide as all columns and the delimiters
between them, and a column starts where the columns before it end (`Style.offset`), in each line
at the same place. The last column has nothing to its right but blanks, which are trimmed: whether
it is padded cannot be seen.
-/

namespace ElasticGrid

variable {α : Type}

namespace Text

theorem intercalate_cons (d piece : List Char) (after : List (List Char)) :
    d.intercalate (piece :: after) = piece ++ after.flatMap (d ++ ·) := by
  induction after generalizing piece with
  | nil => simp
  | cons next after ih =>
    rw [List.intercalate_cons_cons, ih, List.flatMap_cons, List.append_assoc, List.append_assoc]

theorem intercalate_append_cons (d : List Char) (before : List (List Char)) (piece : List Char)
    (after : List (List Char)) :
    d.intercalate (before ++ piece :: after) =
      before.flatMap (· ++ d) ++ (piece ++ after.flatMap (d ++ ·)) := by
  induction before with
  | nil => exact intercalate_cons d piece after
  | cons first before ih =>
    have hne : before ++ piece :: after ≠ [] := List.append_ne_nil_of_right_ne_nil _ (by simp)
    rw [List.cons_append, List.intercalate_cons_of_ne_nil hne, ih, List.flatMap_cons]
    simp only [List.append_assoc]

theorem units_flatMap {β : Type} (f : β → List Char) (l : List β) :
    units (l.flatMap f) = (l.map fun b => units (f b)).sum := by
  induction l with
  | nil => rfl
  | cons b l ih => rw [List.flatMap_cons, units_append, ih, List.map_cons, List.sum_cons]

theorem units_intercalate (d : List Char) (pieces : List (List Char)) :
    units (d.intercalate pieces) = (pieces.map units).sum + units d * (pieces.length - 1) := by
  cases pieces with
  | nil => simp
  | cons piece after =>
    have hafter : units (after.flatMap (d ++ ·)) =
        (after.map units).sum + units d * after.length := by
      induction after with
      | nil => rfl
      | cons next after ih =>
        rw [List.flatMap_cons, units_append, units_append, ih, List.map_cons, List.sum_cons,
          List.length_cons, Nat.mul_succ]
        omega
    rw [intercalate_cons, units_append, hafter, List.map_cons, List.sum_cons, List.length_cons,
      Nat.add_sub_cancel, Nat.add_assoc]

end Text

namespace Style

variable {style : Style} {text : α → String} {columns : List (List (Option α))}
  {column : List (Option α)} {x y : Nat}

/-! ## Columns and lines -/

theorem exists_units_eq_width {texts : List (List Char)} (hne : texts ≠ []) :
    ∃ s ∈ texts, Text.units s = width texts := by
  induction texts with
  | nil => exact absurd rfl hne
  | cons t texts ih =>
    have hwidth : width (t :: texts) = max (Text.units t) (width texts) := rfl
    by_cases hle : width texts ≤ Text.units t
    · exact ⟨t, List.mem_cons_self, by omega⟩
    · have hrest : texts ≠ [] := by rintro rfl; exact hle (Nat.zero_le _)
      obtain ⟨s, hs, hunits⟩ := ih hrest
      exact ⟨s, List.mem_cons_of_mem _ hs, by omega⟩

/-- What the texts of a column are padded to. -/
def columnWidth (style : Style) (text : α → String) (column : List (Option α)) : Nat :=
  if style.padCells then width (column.map (style.cellText text)) else 0

theorem isGreatest_columnWidth (hpad : style.padCells) (hne : column ≠ []) :
    IsGreatest {n | ∃ cell ∈ column, Text.units (style.cellText text cell) = n}
      (style.columnWidth text column) := by
  rw [columnWidth, if_pos hpad]
  constructor
  · have hne : column.map (style.cellText text) ≠ [] := by simpa using hne
    obtain ⟨s, hs, hunits⟩ := exists_units_eq_width hne
    obtain ⟨cell, hcell, rfl⟩ := List.mem_map.1 hs
    exact ⟨cell, hcell, hunits⟩
  · rintro n ⟨cell, hcell, rfl⟩
    exact width_le_iff.1 (Nat.le_refl _) _ (List.mem_map_of_mem hcell)

/-- The text that a column shows in line `y`. Beyond its end it shows nothing. -/
def textAt (style : Style) (text : α → String) (column : List (Option α)) (y : Nat) : List Char :=
  (column[y]?.map fun cell =>
    Text.padEnd (style.columnWidth text column) (style.cellText text cell)).getD []

theorem columnTexts_eq_map (style : Style) (text : α → String) (columns : List (List (Option α))) :
    style.columnTexts text columns = columns.map fun column => column.map fun cell =>
      Text.padEnd (style.columnWidth text column) (style.cellText text cell) := by
  rw [columnTexts]
  split
  · next hpad =>
    simp only [List.map_map, Function.comp_def, padColumn, columnWidth, if_pos hpad]
  · next hpad =>
    simp only [columnWidth, if_neg hpad, Text.padEnd_zero]

theorem units_textAt (hpad : style.padCells) (text : α → String) (hy : y < column.length) :
    Text.units (style.textAt text column y) = style.columnWidth text column := by
  have hle : Text.units (style.cellText text column[y]) ≤ style.columnWidth text column :=
    (isGreatest_columnWidth hpad (List.ne_nil_of_length_pos (by omega))).2
      ⟨_, List.getElem_mem hy, rfl⟩
  rw [textAt, List.getElem?_eq_getElem hy, Option.map_some, Option.getD_some, Text.units_padEnd]
  exact Nat.max_eq_left hle

def fullLines (style : Style) (texts : List (List (List Char))) : List (List Char) :=
  (crosscut [] (texts.headD []).length texts).map style.fullLine

theorem textLines_eq_map (style : Style) (texts : List (List (List Char))) :
    style.textLines texts = (style.fullLines texts).map Text.trimEnd := by
  rw [textLines, fullLines, List.map_map]
  rfl

theorem fullLines_columnTexts (style : Style) (text : α → String)
    (columns : List (List (Option α))) :
    style.fullLines (style.columnTexts text columns) =
      (List.range (columns.headD []).length).map fun y =>
        style.fullLine (columns.map fun column => style.textAt text column y) := by
  have hlength : ((style.columnTexts text columns).headD []).length =
      (columns.headD []).length := by
    rw [columnTexts_eq_map]
    cases columns with
    | nil => rfl
    | cons column columns => exact List.length_map _
  rw [fullLines, hlength, crosscut_eq_map_range, List.map_map, columnTexts_eq_map]
  refine List.map_congr_left fun y _ => congrArg style.fullLine ?_
  refine (List.map_map).trans (List.map_congr_left fun column _ => ?_)
  rw [Function.comp_apply, List.getD_eq_getElem?_getD, List.getElem?_map]
  rfl

theorem units_fullLine (hpad : style.padCells) (hy : ∀ column ∈ columns, y < column.length) :
    Text.units (style.fullLine (columns.map fun column => style.textAt text column y)) =
      (columns.map (style.columnWidth text)).sum +
        Text.units style.cellDelimiter.toList * (columns.length - 1) := by
  have hwidths : ∀ column ∈ columns,
      Text.units (style.textAt text column y) = style.columnWidth text column :=
    fun column hm => units_textAt hpad text (hy column hm)
  rw [fullLine, Text.units_intercalate, List.length_map, List.map_map]
  exact congrArg (List.sum · + _) (List.map_congr_left hwidths)

/-- Where column `x` starts: beyond the columns before it, each of them with a delimiter. -/
def offset (style : Style) (text : α → String) (columns : List (List (Option α))) (x : Nat) : Nat :=
  ((columns.take x).map fun column =>
    style.columnWidth text column + Text.units style.cellDelimiter.toList).sum

theorem exists_fullLine_eq (hpad : style.padCells) (text : α → String)
    (hy : ∀ column ∈ columns, y < column.length) (hx : columns[x]? = some column) :
    ∃ before after, style.fullLine (columns.map fun column => style.textAt text column y) =
        before ++ (style.textAt text column y ++ after) ∧
      Text.units before = style.offset text columns x := by
  obtain ⟨hlt, rfl⟩ := List.getElem?_eq_some_iff.1 hx
  have hparts : columns.take x ++ columns[x] :: columns.drop (x + 1) = columns := by
    rw [List.getElem_cons_drop, List.take_append_drop]
  let shown := fun column : List (Option α) => style.textAt text column y
  have hline : style.fullLine (columns.map shown) =
      ((columns.take x).map shown).flatMap (· ++ style.cellDelimiter.toList) ++
        (shown columns[x] ++
          ((columns.drop (x + 1)).map shown).flatMap (style.cellDelimiter.toList ++ ·)) := by
    rw [← Text.intercalate_append_cons, ← List.map_cons (f := shown), ← List.map_append, hparts]
    rfl
  have hwidths : ∀ column ∈ columns.take x,
      Text.units (shown column ++ style.cellDelimiter.toList) =
        style.columnWidth text column + Text.units style.cellDelimiter.toList := fun column hm => by
    rw [Text.units_append, units_textAt hpad text (hy column (List.mem_of_mem_take hm))]
  refine ⟨_, _, hline, ?_⟩
  rw [Text.units_flatMap, List.map_map]
  exact congrArg List.sum (List.map_congr_left hwidths)

/-- The text of a cell, filled up to the width of its column, starts at the column's offset. -/
theorem exists_getElem?_fullLines (hpad : style.padCells)
    (hlength : ∀ column ∈ columns, column.length = (columns.headD []).length)
    (hx : columns[x]? = some column) {cell : Option α} (hy : column[y]? = some cell) :
    ∃ before n after,
      (style.fullLines (style.columnTexts text columns))[y]? = some
        (before ++ (style.cellText text cell ++ List.replicate n ' ' ++ after)) ∧
      Text.units before = style.offset text columns x ∧
      Text.units (style.cellText text cell) + n = style.columnWidth text column := by
  have hcolumn : y < column.length := (List.getElem?_eq_some_iff.1 hy).1
  have hrow : y < (columns.headD []).length := hlength column (List.mem_of_getElem? hx) ▸ hcolumn
  have hshown : style.textAt text column y =
      Text.padEnd (style.columnWidth text column) (style.cellText text cell) := by
    rw [textAt, hy]
    rfl
  have hwide := units_textAt hpad text hcolumn
  rw [hshown, Text.padEnd, Text.units_append, Text.units_replicate_space] at hwide
  obtain ⟨before, after, hline, hbefore⟩ :=
    exists_fullLine_eq hpad text (fun column hm => hlength column hm ▸ hrow) hx
  refine ⟨before, _, after, ?_, hbefore, hwide⟩
  rw [fullLines_columnTexts, List.getElem?_map, List.getElem?_range hrow, Option.map_some, hline,
    hshown, Text.padEnd]

/-- Blanks at the end of the last piece are trimmed from the whole. -/
theorem trimEnd_fullLine_append (style : Style) (pieces : List (List Char)) (s : List Char)
    {blanks : List Char} (hblanks : blanks.all Text.isBlank) :
    Text.trimEnd (style.fullLine (pieces ++ [s ++ blanks])) =
      Text.trimEnd (style.fullLine (pieces ++ [s])) := by
  rw [fullLine, fullLine, Text.intercalate_append_cons, Text.intercalate_append_cons,
    List.flatMap_nil, List.append_nil, List.append_nil, ← List.append_assoc,
    Text.trimEnd_append hblanks]

theorem textLines_padColumn (style : Style) (before : List (List (List Char)))
    (texts : List (List Char)) :
    style.textLines (before ++ [padColumn texts]) = style.textLines (before ++ [texts]) := by
  have hlength : ((before ++ [padColumn texts]).headD []).length =
      ((before ++ [texts]).headD []).length := by
    cases before with
    | nil => exact length_padColumn texts
    | cons _ _ => rfl
  rw [textLines, textLines, hlength, crosscut_eq_map_range, crosscut_eq_map_range, List.map_map,
    List.map_map]
  refine List.map_congr_left fun y _ => ?_
  simp only [Function.comp_apply, List.map_append, List.map_cons, List.map_nil,
    List.getD_eq_getElem?_getD, padColumn, List.getElem?_map]
  cases texts[y]? with
  | none => rfl
  | some s => exact style.trimEnd_fullLine_append _ s (Text.all_isBlank_replicate _)

theorem draw_append_singleton (style : Style) (text : α → String)
    (columns : List (List (Option α))) (last : List (Option α)) {texts : List (List Char)}
    (htexts : texts = last.map (style.cellText text) ∨
      texts = padColumn (last.map (style.cellText text))) :
    style.draw text (columns ++ [last]) =
      String.ofList (style.joinLines
        (style.textLines (style.columnTexts text columns ++ [texts]))) := by
  have hplain : style.textLines (style.columnTexts text columns ++ [texts]) =
      style.textLines (style.columnTexts text columns ++ [last.map (style.cellText text)]) := by
    rcases htexts with rfl | rfl
    · rfl
    · exact style.textLines_padColumn _ _
  rw [hplain, draw, columnTexts, columnTexts]
  split
  · rw [List.map_append, List.map_append, List.map_singleton, List.map_singleton,
      textLines_padColumn]
  · rw [List.map_append, List.map_singleton]

/-! ## Alignment -/

/-- **Padding aligns the columns, and it does not show at the end.** With all of their blanks, the
lines of equally long columns are equally wide; in each of them the text of a cell starts at the
offset of its column and is filled up to the width of the widest text there. The drawing joins these
lines, trimmed one by one and as a whole. It is the same whether the last column is padded or not,
even if the columns are not equally long. -/
theorem padding_aligns (style : Style) (text : α → String) :
    (style.padCells → ∀ columns : List (List (Option α)),
      (∀ column ∈ columns, column.length = (columns.headD []).length) →
      let lines := style.fullLines (style.columnTexts text columns)
      (∀ column ∈ columns, column ≠ [] →
        IsGreatest {n | ∃ cell ∈ column, Text.units (style.cellText text cell) = n}
          (style.columnWidth text column)) ∧
      lines.length = (columns.headD []).length ∧
      (∀ line ∈ lines, Text.units line = (columns.map (style.columnWidth text)).sum +
        Text.units style.cellDelimiter.toList * (columns.length - 1)) ∧
      (∀ (x y : Nat) (column : List (Option α)) (cell : Option α),
        columns[x]? = some column → column[y]? = some cell →
        ∃ before n after,
          lines[y]? = some
            (before ++ (style.cellText text cell ++ List.replicate n ' ' ++ after)) ∧
          Text.units before = style.offset text columns x ∧
          Text.units (style.cellText text cell) + n = style.columnWidth text column) ∧
      style.draw text columns = String.ofList (Text.trimEnd
        (style.rowDelimiter.toList.intercalate (lines.map Text.trimEnd)))) ∧
    (∀ (columns : List (List (Option α))) (last : List (Option α)),
      let texts := last.map (style.cellText text)
      ∀ shown ∈ [texts, padColumn texts],
        style.draw text (columns ++ [last]) = String.ofList (style.joinLines
          (style.textLines (style.columnTexts text columns ++ [shown])))) ∧
    ∀ columns : List (List (Option α)), columns.length ≤ 1 →
      { style with padCells := true }.draw text columns =
        { style with padCells := false }.draw text columns := by
  refine ⟨fun hpad columns hlength => ?_, fun columns last shown hshown =>
    style.draw_append_singleton text columns last (by simpa using hshown), fun columns hone => ?_⟩
  · have hlines := style.fullLines_columnTexts text columns
    refine ⟨fun column _ hne => isGreatest_columnWidth hpad hne, ?_, ?_,
      fun x y column cell hx hy => exists_getElem?_fullLines hpad hlength hx hy, ?_⟩
    · rw [hlines, List.length_map, List.length_range]
    · intro line hm
      rw [hlines] at hm
      obtain ⟨y, hy, rfl⟩ := List.mem_map.1 hm
      exact units_fullLine hpad fun column hm => hlength column hm ▸ List.mem_range.1 hy
    · rw [draw, textLines_eq_map]
      rfl
  · rcases columns with _ | ⟨last, rest⟩
    · rw [draw_nil, draw_nil]
    · have hnone : rest.length = 0 := Nat.le_zero.1 (Nat.le_of_succ_le_succ hone)
      obtain rfl := List.eq_nil_of_length_eq_zero hnone
      have hpadded := { style with padCells := true }.draw_append_singleton text [] last (.inl rfl)
      have hplain := { style with padCells := false }.draw_append_singleton text [] last (.inl rfl)
      exact hpadded.trans hplain.symm

/-- Two columns of three cells, the same with a third column that soon runs out, and the first
column alone. -/
theorem sample_aligned :
    let first : List (Option String) := [some "a", some "ccc", none]
    let second : List (Option String) := [some "bb", none, some "d"]
    let short : List (Option String) := [some "e"]
    let lines := standard.fullLines (standard.columnTexts id [first, second])
    standard.padCells ∧ (∀ column ∈ [first, second], column.length = first.length) ∧
      lines.length = 3 ∧ (∀ line ∈ lines, Text.units line = 6) ∧
      (∃ before n after,
        lines[2]? = some (before ++ ("d".toList ++ List.replicate n ' ' ++ after)) ∧
        Text.units before = 4 ∧ n = 1) ∧
      standard.draw id [first, second] = "a   bb\nccc\n    d" ∧
      (∀ shown ∈ [["e".toList], padColumn ["e".toList]],
        standard.draw id [first, second, short] = String.ofList (standard.joinLines
          (standard.textLines (standard.columnTexts id [first, second] ++ [shown])))) ∧
      [first].length ≤ 1 ∧
      { standard with padCells := true }.draw id [first] =
        { standard with padCells := false }.draw id [first] := by
  intro first second short lines
  have hpad : standard.padCells := rfl
  have hlength : ∀ column ∈ [first, second], column.length = first.length := by decide
  obtain ⟨haligned, hlast, halone⟩ := standard.padding_aligns id
  obtain ⟨-, hlines, hunits, hcells, hdraw⟩ := haligned hpad [first, second] hlength
  obtain ⟨before, n, after, hline, hbefore, hn⟩ := hcells 1 2 second (some "d") rfl rfl
  have hone : n = 1 := Nat.add_left_cancel hn
  exact ⟨hpad, hlength, hlines, hunits, ⟨before, n, after, hline, hbefore, hone⟩,
    hdraw.trans (by decide), hlast [first, second] short, Nat.le_refl 1,
    halone [first] (Nat.le_refl 1)⟩

end Style

end ElasticGrid
