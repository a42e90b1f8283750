import ElasticGrid.Proofs.Alignment
import ElasticGrid.Proofs.BoundingBox

/-!
# What a drawing shows of absent cells

Under some styles an absent cell leaves no trace at the end of a line or of the whole: it is drawn
as blanks, and so is what stands between it and the next one. The cells around all values then
decide how a grid is drawn, whatever its size (`Rectangular.draw_congr`). Packing takes away
nothing but absent cells at the far ends, so it cannot be seen.
-/

namespace ElasticGrid

variable {α : Type}

namespace Text

/-- Between blanks, blank pieces at the end leave no trace in what is trimmed. -/
theorem trimEnd_intercalate_append {d : List Char} (hd : d.all isBlank)
    (pieces : List (List Char)) {rest : List (List Char)} (hrest : ∀ s ∈ rest, s.all isBlank) :
    trimEnd (d.intercalate (pieces ++ rest)) = trimEnd (d.intercalate pieces) := by
  rcases rest with _ | ⟨first, rest⟩
  · rw [List.append_nil]
  · have htail : (first ++ rest.flatMap (d ++ ·)).all isBlank := by
      rw [List.all_append, hrest first List.mem_cons_self, Bool.true_and, List.all_flatMap,
        List.all_eq_true]
      intro s hs
      rw [List.all_append, hd, hrest s (List.mem_cons_of_mem _ hs)]
      rfl
    rw [intercalate_append_cons, trimEnd_append htail]
    rcases List.eq_nil_or_concat pieces with rfl | ⟨before, last, rfl⟩
    · rfl
    · -- What is left ends in a delimiter, which is blank as well.
      rw [List.concat_eq_append, intercalate_append_cons, List.flatMap_append,
        List.flatMap_singleton, List.flatMap_nil, List.append_nil, ← List.append_assoc, trimEnd_append hd]

theorem trimEnd_intercalate_blank {d : List Char} (hd : d.all isBlank) {pieces : List (List Char)}
    (hpieces : ∀ s ∈ pieces, s.all isBlank) : trimEnd (d.intercalate pieces) = [] :=
  trimEnd_intercalate_append hd [] hpieces

end Text

namespace Style

/-- Nothing is drawn for an absent cell, and nothing but blanks around it. -/
structure Traceless (style : Style) : Prop where
  absentMarker : style.absentMarker = ""
  cellDelimiter : style.cellDelimiter.toList.all Text.isBlank
  rowDelimiter : style.rowDelimiter.toList.all Text.isBlank

theorem standard_traceless : standard.Traceless := ⟨rfl, rfl, rfl⟩

variable {style : Style} {text : α → String} {f : Nat → Nat → Option α} {c n r m y : Nat}

namespace Traceless

theorem cellText_none (hstyle : style.Traceless) : style.cellText text none = [] := by
  rw [cellText, hstyle.absentMarker]
  rfl

theorem all_isBlank_textAt (hstyle : style.Traceless) {column : List (Option α)}
    (hcell : column.getD y none = none) : (style.textAt text column y).all Text.isBlank := by
  rw [List.getD_eq_getElem?_getD] at hcell
  rw [textAt]
  cases hy : column[y]? with
  | none => rfl
  | some cell =>
    obtain rfl : cell = none := by rwa [hy] at hcell
    rw [Option.map_some, Option.getD_some, hstyle.cellText_none, Text.padEnd, List.nil_append]
    exact Text.all_isBlank_replicate _

/-- Absent cells at the end of a column do not make it any wider. -/
theorem columnWidth_range (hstyle : style.Traceless) {cells : Nat → Option α}
    (habsent : ∀ y, r ≤ y → cells y = none) (hr : r ≤ m) :
    style.columnWidth text ((List.range m).map cells) =
      style.columnWidth text ((List.range r).map cells) := by
  have hwidth : ∀ k, width (((List.range m).map cells).map (style.cellText text)) ≤ k ↔
      width (((List.range r).map cells).map (style.cellText text)) ≤ k := by
    intro k
    simp only [width_le_iff, List.forall_mem_map, List.mem_range]
    refine ⟨fun h y hy => h y (Nat.lt_of_lt_of_le hy hr), fun h y _ => ?_⟩
    by_cases hy : y < r
    · exact h y hy
    · rw [habsent y (Nat.le_of_not_lt hy), hstyle.cellText_none]
      exact Nat.zero_le k
  have heq := Nat.le_antisymm ((hwidth _).2 (Nat.le_refl _)) ((hwidth _).1 (Nat.le_refl _))
  rw [columnWidth, columnWidth, heq]

end Traceless

/-! ## Cells in a frame -/

/-- The columns of a frame around cells, `n` columns and `m` rows of it. -/
def frame (n m : Nat) (f : Nat → Nat → Option α) : List (List (Option α)) :=
  (List.range n).map fun x => (List.range m).map (f x)

def frameLine (style : Style) (text : α → String) (n m : Nat) (f : Nat → Nat → Option α) (y : Nat) :
    List Char :=
  Text.trimEnd (style.fullLine ((frame n m f).map fun column => style.textAt text column y))

theorem textLines_frame (style : Style) (text : α → String) (n m : Nat)
    (f : Nat → Nat → Option α) :
    style.textLines (style.columnTexts text (frame (n + 1) m f)) =
      (List.range m).map (style.frameLine text (n + 1) m f) := by
  have hlength : ((frame (n + 1) m f).headD []).length = m := by
    rw [frame, List.range_succ_eq_map, List.map_cons, List.headD_cons, List.length_map,
      List.length_range]
  rw [textLines_eq_map, fullLines_columnTexts, hlength, List.map_map]
  rfl

namespace Traceless

theorem all_isBlank_textAt_frame (hstyle : style.Traceless) {x : Nat} (hcell : f x y = none) :
    (style.textAt text ((List.range m).map (f x)) y).all Text.isBlank := by
  refine hstyle.all_isBlank_textAt ?_
  rw [List.getD_eq_getElem?_getD, List.getElem?_map]
  cases hy : (List.range m)[y]? with
  | none => rfl
  | some i =>
    obtain ⟨_, rfl⟩ := List.getElem?_eq_some_iff.1 hy
    rw [List.getElem_range]
    exact hcell

theorem frameLine_of_absent (hstyle : style.Traceless) (habsent : ∀ x, f x y = none) :
    style.frameLine text n m f y = [] := by
  refine Text.trimEnd_intercalate_blank hstyle.cellDelimiter ?_
  simp only [frame, List.forall_mem_map]
  exact fun x _ => hstyle.all_isBlank_textAt_frame (habsent x)

/-- A line does not show how far the frame reaches beyond the last value. -/
theorem frameLine_eq (hstyle : style.Traceless) (habsent : ∀ x y, c ≤ x ∨ r ≤ y → f x y = none)
    (hc : c ≤ n) (hr : r ≤ m) (hy : y < r) :
    style.frameLine text n m f y = style.frameLine text c r f y := by
  have htext : ∀ x, style.textAt text ((List.range m).map (f x)) y =
      style.textAt text ((List.range r).map (f x)) y := by
    intro x
    rw [textAt, textAt, hstyle.columnWidth_range (fun y hy => habsent x y (.inr hy)) hr,
      List.getElem?_map, List.getElem?_map, List.getElem?_range (Nat.lt_of_lt_of_le hy hr),
      List.getElem?_range hy]
  obtain ⟨k, rfl⟩ := Nat.exists_eq_add_of_le hc
  simp only [frameLine, frame, fullLine, List.map_map, Function.comp_def, htext]
  rw [List.range_add, List.map_append]
  refine Text.trimEnd_intercalate_append hstyle.cellDelimiter _ ?_
  simp only [List.map_map, List.forall_mem_map]
  exact fun x _ => hstyle.all_isBlank_textAt_frame (habsent _ _ (.inl (Nat.le_add_right c x)))

theorem draw_frame (hstyle : style.Traceless) (text : α → String) (n m : Nat)
    (f : Nat → Nat → Option α) :
    style.draw text (frame n m f) =
      String.ofList (style.joinLines ((List.range m).map (style.frameLine text n m f))) := by
  cases n with
  | succ n => rw [draw, textLines_frame]
  | zero =>
    have hlines : ∀ s ∈ (List.range m).map (style.frameLine text 0 m f), s.all Text.isBlank := by
      simp only [List.forall_mem_map]
      exact fun y _ => rfl
    rw [joinLines, Text.trimEnd_intercalate_blank hstyle.rowDelimiter hlines]
    exact style.draw_nil text

/-- A drawing does not show how far the frame reaches beyond the last value. -/
theorem draw_frame_eq (hstyle : style.Traceless) (text : α → String)
    (habsent : ∀ x y, c ≤ x ∨ r ≤ y → f x y = none) (hc : c ≤ n) (hr : r ≤ m) :
    style.draw text (frame n m f) = style.draw text (frame c r f) := by
  obtain ⟨k, rfl⟩ := Nat.exists_eq_add_of_le hr
  have hlines : (List.range r).map (style.frameLine text n (r + k) f) =
      (List.range r).map (style.frameLine text c r f) :=
    List.map_congr_left fun y hy => hstyle.frameLine_eq habsent hc hr (List.mem_range.1 hy)
  rw [hstyle.draw_frame, hstyle.draw_frame, List.range_add, List.map_append, hlines]
  refine congrArg String.ofList (Text.trimEnd_intercalate_append hstyle.rowDelimiter _ ?_)
  simp only [List.map_map, List.forall_mem_map]
  intro y _
  rw [Function.comp_apply,
    hstyle.frameLine_of_absent fun x => habsent x _ (.inr (Nat.le_add_right r y))]
  rfl

end Traceless

end Style

/-! ## Drawings -/

namespace Grid

variable {g h : Grid α} {style : Style}

theorem HasShape.columns_eq_frame {c r : Nat} (hg : g.HasShape c r) :
    g.columns = Style.frame c r g.cell := by
  refine List.ext_getElem (by simp [Style.frame, hg.columns]) fun x hx _ => ?_
  refine List.ext_getElem (by simp [Style.frame, hg.rows _ (List.getElem_mem hx)]) fun y hy _ => ?_
  simp [Style.frame, cell, List.getD_eq_getElem?_getD, hx, hy]

/-- Grids with the same cells are drawn the same, whatever their sizes. -/
theorem Rectangular.draw_congr (hg : g.Rectangular) (hh : h.Rectangular) (hstyle : style.Traceless)
    (text : α → String) (hcell : ∀ p, g.get p = h.get p) :
    style.draw text g.columns = style.draw text h.columns := by
  have hsame : g.cell = h.cell := funext fun x => funext fun y => hcell ⟨x, y⟩
  rw [hg.hasShape.columns_eq_frame, hh.hasShape.columns_eq_frame,
    ← hstyle.draw_frame_eq text (fun _ _ => hg.hasShape.cell_eq_none)
      (Nat.le_max_left g.columnCount h.columnCount) (Nat.le_max_left g.rowCount h.rowCount),
    ← hstyle.draw_frame_eq text (fun _ _ => hh.hasShape.cell_eq_none)
      (Nat.le_max_right g.columnCount h.columnCount) (Nat.le_max_right g.rowCount h.rowCount),
    hsame]

theorem Rectangular.draw_packIf_packIf (hg : g.Rectangular) (hstyle : style.Traceless)
    (text : α → String) (rows columns : Bool) :
    style.draw text ((g.packIf .row rows).packIf .column columns).columns =
      style.draw text g.columns := by
  have hmid := hg.packIf .row rows
  refine (hmid.packIf .column columns).draw_congr hg hstyle text fun p => ?_
  rw [hmid.get_packIf, hg.get_packIf]

theorem Rectangular.draw_of_absent (hg : g.Rectangular) (hstyle : style.Traceless)
    (text : α → String) (habsent : ∀ p ∈ g.region.toList, g.get p = none) :
    style.draw text g.columns = "" := by
  have hcell : ∀ p, g.get p = (empty : Grid α).get p := by
    intro p
    by_cases hp : p ∈ g.region.toList
    · exact habsent p hp
    · rw [mem_region] at hp
      exact hg.hasShape.cell_eq_none (by omega)
  exact (hg.draw_congr rectangular_empty hstyle text hcell).trans (style.draw_nil text)

end Grid

namespace Workbook

variable [Content α] {book : Workbook α}

/-- **Packing cannot be seen where absent cells leave no trace**, and of a sheet without values
nothing can be seen at all. The style where nothing has been set is one of those. -/
theorem Reached.drawing_outlives_packing (hb : book.Reached) (name : String) :
    (∀ (overrides : Datum) (style : Style),
      Style.resolve [(book.sheet name).style, overrides] = .ok style → style.Traceless →
      ∃ drawing, (book.replyTo name (.draw overrides)).answer = .ok (.text drawing) ∧
        (∀ rows columns,
          ((book.perform ⟨name, .edit (.pack rows columns)⟩).2.replyTo name
            (.draw overrides)).answer = .ok (.text drawing)) ∧
        ((∀ p ∈ (book.sheet name).grid.region.toList, (book.sheet name).grid.get p = none) →
          drawing = "")) ∧
    Style.resolve [.null, .null] = .ok .standard ∧ Style.standard.Traceless := by
  refine ⟨fun overrides style hstyle htraceless => ?_, rfl, Style.standard_traceless⟩
  have hg := (hb name).rectangular
  have hdraw : ∀ later : Workbook α, (later.sheet name).style = (book.sheet name).style →
      (later.replyTo name (.draw overrides)).answer =
        .ok (.text (style.draw Content.text (later.sheet name).grid.columns)) := by
    intro later hlater
    show (((later.sheet name).draw overrides).map Answer.text).mapError Fault.style = _
    rw [Sheet.draw, hlater, hstyle]
    rfl
  refine ⟨_, hdraw book rfl, fun rows columns => ?_, hg.draw_of_absent htraceless _⟩
  have hsheet : (book.perform ⟨name, .edit (.pack rows columns)⟩).2.sheet name =
      { book.sheet name with
        grid := ((book.sheet name).grid.packIf .row rows).packIf .column columns } := by
    rw [sheet_edit, if_pos rfl, Edit.run_pack]
  rw [hdraw _ (by rw [hsheet]), hsheet, hg.draw_packIf_packIf htraceless]

/-- One value with a blank row and a blank column beside it, drawn with tabs and without padding.
A sheet that was never built has no value at all. -/
theorem value_in_a_corner :
    let book : Workbook Value := empty.put "a"
      ⟨(Source.ofLines .row [[some (.text "b"), none], [none]]).run.2.grid, none, .null⟩
    let style : Style := ⟨"\t", "\n", "", false⟩
    let packed := (book.perform ⟨"a", .edit (.pack true true)⟩).2
    book.Reached ∧ Style.resolve [(book.sheet "a").style, style.layer.toDatum] = .ok style ∧
      style.Traceless ∧ (book.sheet "a").grid.size = ⟨2, 2⟩ ∧
      (packed.sheet "a").grid.size = ⟨1, 1⟩ ∧
      (packed.replyTo "a" (.draw style.layer.toDatum)).answer = .ok (.text "b") ∧
      (∀ p ∈ (book.sheet "c").grid.region.toList, (book.sheet "c").grid.get p = none) ∧
      (book.replyTo "c" (.draw .null)).answer = .ok (.text "") := by
  intro book style packed
  have hb : book.Reached := reached_empty.put "a" (.built rfl)
  have hstyle : Style.resolve [(book.sheet "a").style, style.layer.toDatum] = .ok style := rfl
  have htraceless : style.Traceless := ⟨rfl, by decide, by decide⟩
  obtain ⟨hvalue, -⟩ := hb.drawing_outlives_packing "a"
  obtain ⟨hblank, hstandard, hdefault⟩ := hb.drawing_outlives_packing "c"
  have habsent : ∀ p ∈ (book.sheet "c").grid.region.toList,
      (book.sheet "c").grid.get p = none := by decide
  obtain ⟨drawing, hdrawing, hpacked, -⟩ := hvalue style.layer.toDatum style hstyle htraceless
  obtain ⟨nothing, hnothing, -, hempty⟩ := hblank .null .standard hstandard hdefault
  have hletter : (book.replyTo "a" (.draw style.layer.toDatum)).answer = .ok (.text "b") :=
    congrArg (fun text => Except.ok (Answer.text text)) (by decide +kernel)
  refine ⟨hb, hstyle, htraceless, by decide +kernel, by decide +kernel, ?_, habsent, ?_⟩
  · rw [hpacked true true, ← hdrawing, hletter]
  · rw [hnothing, hempty habsent]

/-- Where absent cells are marked, packing can be seen. -/
example :
    let style : Style := { Style.standard with absentMarker := "-" }
    style.draw id [[some "b", none]] = "b\n-" ∧ style.draw id [[some "b"]] = "b" := by decide

end Workbook

end ElasticGrid
