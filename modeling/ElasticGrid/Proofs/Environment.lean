import ElasticGrid.Proofs.Runs
import ElasticGrid.Value

/-!
# From the environment to a drawing

A style can be given in variables of the environment, its texts in escaped form. The delimiters
come out of a drawing as they were meant. The absent marker is taken as it is written, so the
drawing shows it escaped; it is the marker that was meant just if nothing in it had to be escaped.

Between the environment and the drawing stand the settings, which become a layer of plain data, and
any number of steps: a sheet keeps its style until another one takes its place.
-/

namespace ElasticGrid

variable {α : Type}

namespace Text

/-- The characters that are written in escaped form. -/
def escapees : List Char := ['\n', '\t', '\\']

/-- Nothing in the text has to be escaped. -/
def Plain (s : List Char) : Prop := ∀ c ∈ s, c ∉ escapees

instance (s : List Char) : Decidable (Plain s) := List.decidableBAll _ s

/-- The number of characters that are no blanks. -/
def visible (s : List Char) : Nat := s.countP fun c => !isBlank c

theorem escape_cons (c : Char) (s : List Char) : escape (c :: s) = escapeChar c ++ escape s := rfl

theorem plain_cons {c : Char} {s : List Char} : Plain (c :: s) ↔ c ∉ escapees ∧ Plain s :=
  List.forall_mem_cons

theorem escapeChar_of_not_mem {c : Char} (hc : c ∉ escapees) : escapeChar c = [c] := by
  simp only [escapees, List.mem_cons, List.not_mem_nil, or_false, not_or] at hc
  rw [escapeChar, if_neg hc.1, if_neg hc.2.1, if_neg hc.2.2]

theorem escape_of_plain {s : List Char} (hs : Plain s) : escape s = s := by
  induction s with
  | nil => rfl
  | cons c s ih =>
    obtain ⟨hc, hs⟩ := plain_cons.1 hs
    rw [escape_cons, escapeChar_of_not_mem hc, ih hs]
    rfl

/-- An escaped character is written with two that are no blanks. -/
theorem visible_lt_escapeChar {c : Char} (hc : c ∈ escapees) :
    visible [c] < visible (escapeChar c) := by
  simp only [escapees, List.mem_cons, List.not_mem_nil, or_false] at hc
  rcases hc with rfl | rfl | rfl <;> decide

theorem visible_cons (c : Char) (s : List Char) : visible (c :: s) = visible [c] + visible s := by
  rw [← List.singleton_append]
  exact List.countP_append

theorem visible_escape_cons (c : Char) (s : List Char) :
    visible (escape (c :: s)) = visible (escapeChar c) + visible (escape s) :=
  List.countP_append

theorem visible_le_escape (s : List Char) : visible s ≤ visible (escape s) := by
  induction s with
  | nil => exact Nat.le_refl _
  | cons c s ih =>
    rw [visible_cons, visible_escape_cons]
    by_cases hc : c ∈ escapees
    · have := visible_lt_escapeChar hc; omega
    · rw [escapeChar_of_not_mem hc]; omega

/-- Escaping leaves more to be seen of a text, unless nothing has to be escaped. -/
theorem plain_of_visible_escape {s : List Char} (h : visible (escape s) = visible s) : Plain s := by
  induction s with
  | nil => exact fun _ hm => absurd hm List.not_mem_nil
  | cons c s ih =>
    have hle := visible_le_escape s
    rw [visible_cons, visible_escape_cons] at h
    by_cases hc : c ∈ escapees
    · have := visible_lt_escapeChar hc; omega
    · rw [escapeChar_of_not_mem hc] at h
      exact plain_cons.2 ⟨hc, ih (by omega)⟩

theorem visible_trimEnd (s : List Char) : visible (trimEnd s) = visible s :=
  countP_dropTrailing isBlank s

/-- Even where blanks at the end do not count, an escaped text is another one. -/
theorem trimEnd_escape_eq_iff {s : List Char} : trimEnd (escape s) = trimEnd s ↔ Plain s := by
  refine ⟨fun h => plain_of_visible_escape ?_, fun h => by rw [escape_of_plain h]⟩
  rw [← visible_trimEnd, h, visible_trimEnd]

end Text

def escaped (s : String) : String := String.ofList (Text.escape s.toList)

theorem readDelimiter_escaped (s : String) : Settings.readDelimiter (escaped s) = s := by
  rw [Settings.readDelimiter, escaped, String.toList_ofList, Text.unescape_escape,
    String.ofList_toList]

/-! ## What the environment gives -/

/-- The texts of a style in escaped form, and a digit for the padding. -/
structure Environment.Gives (env : Environment) (style : Style) : Prop where
  cellDelimiter : env "ELASTIC_MATRIX_CELL_DELIMITER" = some (escaped style.cellDelimiter)
  rowDelimiter : env "ELASTIC_MATRIX_ROW_DELIMITER" = some (escaped style.rowDelimiter)
  absentMarker : env "ELASTIC_MATRIX_ABSENT_MARKER" = some (escaped style.absentMarker)
  padCells : env "ELASTIC_MATRIX_PAD_CELLS" = some (if style.padCells then "1" else "0")

def Style.escapeMarker (style : Style) : Style :=
  { style with absentMarker := escaped style.absentMarker }

variable {env : Environment} {style : Style}

theorem Environment.Gives.style_eq (henv : env.Gives style) :
    (Settings.ofEnvironment env).style = style.escapeMarker.layer := by
  have hpad : Settings.readTruth (if style.padCells then "1" else "0") = some style.padCells := by
    cases style.padCells <;> decide +kernel
  simp only [Settings.ofEnvironment, henv.cellDelimiter, henv.rowDelimiter, henv.absentMarker,
    henv.padCells, Option.map_some, Option.bind_some, readDelimiter_escaped, hpad]
  rfl

/-- The step puts no new sheet in the place of one. -/
def Step.Leaves (step : Step α) (name : String) : Prop :=
  match step.action with
  | .build _ _ => step.sheet ≠ name
  | .clone target => target ≠ name
  | _ => True

namespace Workbook

variable [Content α] {name : String}

theorem style_perform (book : Workbook α) {step : Step α} (hstep : step.Leaves name) :
    ((book.perform step).2.sheet name).style = (book.sheet name).style := by
  obtain ⟨sheet, action⟩ := step
  cases action with
  | build source setup =>
    have hne : name ≠ sheet := Ne.symm hstep
    simp only [perform]
    rcases book.build_cases sheet source setup with ⟨fault, h⟩ | ⟨fresh, -, -, h⟩ <;> rw [h]
    · rfl
    · simp only [adopt, sheet_put, if_neg hne]
  | clone target =>
    have hne : name ≠ target := Ne.symm hstep
    simp only [perform, look, sheet_put, if_neg hne]
  | edit edit =>
    simp only [perform, adopt, sheet_put]
    split
    · next hname => rw [hname]; rfl
    · rfl
  | ask query => rfl
  | draw overrides => rfl
  | compare other test => rfl

theorem style_after (book : Workbook α) {steps : List (Step α)}
    (hsteps : ∀ step ∈ steps, step.Leaves name) :
    ((book.after steps).sheet name).style = (book.sheet name).style := by
  induction steps generalizing book with
  | nil => rfl
  | cons step steps ih =>
    obtain ⟨hstep, hrest⟩ := List.forall_mem_cons.1 hsteps
    exact (ih (book.perform step).2 hrest).trans (style_perform book hstep)

theorem build_environment (book : Workbook α) (name : String) (henv : env.Gives style)
    {accepted : Level} (hlevel : Level.ofName? (Settings.ofEnvironment env).level = some accepted)
    {source : Source α} (hsource : source.run.1 = .ok ()) :
    book.perform ⟨name, .build source (.environment env)⟩ =
      book.adopt name ⟨.empty, some accepted, style.escapeMarker.layer.toDatum⟩ source.run.2
        (.ok .done) := by
  simp only [perform, build, Setup.sheet_environment hlevel, henv.style_eq]
  rcases hrun : source.run with ⟨fault | _, draft⟩
  · rw [hrun] at hsource; cases hsource
  · rfl

end Workbook

theorem Sheet.draw_of_layer [Content α] {sheet : Sheet α}
    (hstyle : sheet.style = style.layer.toDatum) :
    sheet.draw .null = .ok (style.draw Content.text sheet.grid.columns) := by
  rw [draw, hstyle, Style.resolve_toDatum]
  rfl

/-! ## One absent cell -/

theorem Style.draw_absent (style : Style) (text : α → String) :
    style.draw text [[none]] = String.ofList (Text.trimEnd style.absentMarker.toList) := by
  have htexts : style.columnTexts text [[none]] = [[style.absentMarker.toList]] := by
    unfold columnTexts
    cases style.padCells with
    | false => rfl
    | true =>
      show [[Text.padEnd (max (Text.units style.absentMarker.toList) 0)
        style.absentMarker.toList]] = _
      rw [Nat.max_zero, Text.padEnd, Nat.sub_self, List.replicate_zero, List.append_nil]
  have hlines : style.textLines [[style.absentMarker.toList]] =
      [Text.trimEnd style.absentMarker.toList] := by
    show [Text.trimEnd (style.fullLine [style.absentMarker.toList])] = _
    rw [fullLine, List.intercalate_singleton]
  rw [draw, htexts, hlines, joinLines, List.intercalate_singleton]
  exact congrArg String.ofList (dropTrailing_dropTrailing Text.isBlank _)

theorem reachable_absent : (⟨[[none]]⟩ : Grid α).Reachable := by
  let source : Source α := .ofLines .column [[none]]
  show source.run.2.grid.Reachable
  exact .built rfl

/-- The marker that was meant is drawn just if nothing in it had to be escaped. -/
theorem Style.draw_escapeMarker_iff (style : Style) (text : α → String) :
    (∀ g : Grid α, g.Reachable →
      style.escapeMarker.draw text g.columns = style.draw text g.columns) ↔
      Text.Plain style.absentMarker.toList := by
  refine ⟨fun h => ?_, fun h g _ => ?_⟩
  · -- One absent cell is enough to tell two markers apart.
    have hone := h ⟨[[none]]⟩ reachable_absent
    rw [draw_absent, draw_absent, String.ofList_inj] at hone
    rw [← Text.trimEnd_escape_eq_iff, ← hone, escapeMarker, escaped, String.toList_ofList]
  · rw [escapeMarker, escaped, Text.escape_of_plain h, String.ofList_toList]

/-- **What the environment gives reaches the drawing**, whatever is built and whatever happens to
it, but for the absent marker, which stays escaped. So the drawing is the one that was meant just if
nothing in the marker had to be escaped. -/
theorem Workbook.environment_reaches_drawing [Content α] (henv : env.Gives style)
    (hlevel : (Level.ofName? (Settings.ofEnvironment env).level).isSome) :
    (∀ (book : Workbook α) (name : String) (source : Source α) (steps : List (Step α)),
      source.run.1 = .ok () → (∀ step ∈ steps, step.Leaves name) →
      let build : Action α := .build source (.environment env)
      let after := (book.perform ⟨name, build⟩).2.after steps
      (book.replyTo name build).answer = .ok .done ∧
      (after.replyTo name (.draw .null)).answer =
        .ok (.text (style.escapeMarker.draw Content.text (after.sheet name).grid.columns))) ∧
    ((∀ g : Grid α, g.Reachable →
      style.escapeMarker.draw Content.text g.columns = style.draw Content.text g.columns) ↔
      Text.Plain style.absentMarker.toList) := by
  obtain ⟨accepted, hlevel⟩ := Option.isSome_iff_exists.1 hlevel
  refine ⟨fun book name source steps hsource hsteps => ?_, style.draw_escapeMarker_iff _⟩
  have hbuild := book.build_environment name henv hlevel hsource
  intro build after
  have hstyle : (after.sheet name).style = style.escapeMarker.layer.toDatum := by
    rw [style_after _ hsteps, hbuild, adopt, sheet_put, if_pos rfl]
    rfl
  refine ⟨by rw [replyTo, hbuild]; rfl, ?_⟩
  show (((after.sheet name).draw .null).map Answer.text).mapError Fault.style = _
  rw [Sheet.draw_of_layer hstyle]
  rfl

/-- A tab between cells and three lines between rows, given in escaped form, are drawn after one
more row has been put in. -/
theorem tab_and_lines_reach_drawing :
    let env : Environment := fun name => List.lookup name [
      ("ELASTIC_MATRIX_CELL_DELIMITER", "\\t"), ("ELASTIC_MATRIX_ROW_DELIMITER", "\\n--\\n"),
      ("ELASTIC_MATRIX_ABSENT_MARKER", "-"), ("ELASTIC_MATRIX_PAD_CELLS", "0")]
    let style : Style := ⟨"\t", "\n--\n", "-", false⟩
    let source : Source Value := .ofLines .row [[some (.text "a"), none]]
    let steps : List (Step Value) := [⟨"a", .edit (.insert .row .atEnd [some (.text "b")])⟩]
    let after := (Workbook.empty.perform ⟨"a", .build source (.environment env)⟩).2.after steps
    env.Gives style ∧ (Level.ofName? (Settings.ofEnvironment env).level).isSome ∧
      (after.replyTo "a" (.draw .null)).answer = .ok (.text "a\t-\n--\nb\t-") ∧
      ∀ g : Grid Value, g.Reachable →
        style.escapeMarker.draw Content.text g.columns = style.draw Content.text g.columns := by
  intro env style source steps after
  have henv : env.Gives style := by constructor <;> decide +kernel
  have hlevel : (Level.ofName? (Settings.ofEnvironment env).level).isSome := by decide +kernel
  obtain ⟨hdraw, hmeant⟩ := Workbook.environment_reaches_drawing (α := Value) henv hlevel
  obtain ⟨-, htext⟩ := hdraw .empty "a" source steps rfl fun step hm => by
    rw [List.mem_singleton.1 hm]; trivial
  refine ⟨henv, hlevel, htext.trans ?_, hmeant.2 (by decide)⟩
  exact congrArg (fun text => Except.ok (Answer.text text)) (by decide +kernel)

/-- A tab in the marker is drawn as a backslash and a letter. -/
theorem tab_in_marker_stays_escaped :
    let env : Environment := fun name => List.lookup name [
      ("ELASTIC_MATRIX_CELL_DELIMITER", ","), ("ELASTIC_MATRIX_ROW_DELIMITER", "|"),
      ("ELASTIC_MATRIX_ABSENT_MARKER", "a\\tb"), ("ELASTIC_MATRIX_PAD_CELLS", "0")]
    let style : Style := ⟨",", "|", "a\tb", false⟩
    let source : Source Value := .ofLines .row [[none]]
    let built := (Workbook.empty.perform ⟨"a", .build source (.environment env)⟩).2
    env.Gives style ∧ (built.replyTo "a" (.draw .null)).answer = .ok (.text "a\\tb") ∧
      style.draw Content.text (built.sheet "a").grid.columns = "a\tb" ∧ "a\\tb" ≠ "a\tb" := by
  intro env style source built
  have henv : env.Gives style := by constructor <;> decide +kernel
  have hlevel : Level.ofName? (Settings.ofEnvironment env).level = some (.atLeast .info) := by
    decide +kernel
  have hgrid : (built.sheet "a").grid = ⟨[[none]]⟩ := by decide +kernel
  have hstyle : (built.sheet "a").style = style.escapeMarker.layer.toDatum := by
    have hsource : source.run.1 = .ok () := rfl
    rw [show built = _ from
      congrArg Prod.snd (Workbook.empty.build_environment "a" henv hlevel hsource)]
    rfl
  refine ⟨henv, ?_, by decide +kernel, by decide⟩
  show (((built.sheet "a").draw .null).map Answer.text).mapError Fault.style = _
  rw [Sheet.draw_of_layer hstyle, hgrid]
  exact congrArg (fun text => Except.ok (Answer.text text)) (by decide +kernel)

end ElasticGrid
