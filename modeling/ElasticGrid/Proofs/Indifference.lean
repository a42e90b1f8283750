import ElasticGrid.Proofs.Parallel

/-!
# What a run does not depend on

Two runs of a workbook are compared, step by step. In the first comparison the second run has
`f v` wherever the first one has the value `v`: sizes, faults and records are the same, cells
and what is returned are the images under `f`. In the second comparison the journals are other
ones: nothing is different but which records are written. A step shows both of two workbooks
that belong together, and leaves them so.
-/

namespace ElasticGrid

variable {α : Type} {f : α → α}

def Maps (f : α → α) (a b : α) : Prop := f a = b

theorem rel_maps_iff {v w : Option α} : Option.Rel (Maps f) v w ↔ v.map f = w := by
  refine ⟨fun hvw => ?_, fun hvw => hvw ▸ rel_map fun a _ => rfl⟩
  cases hvw with
  | some hab => exact congrArg some hab
  | none => rfl

theorem forall₂_maps_iff {cells cells' : List (Option α)} :
    List.Forall₂ (Option.Rel (Maps f)) cells cells' ↔ cells.map (Option.map f) = cells' := by
  have heq : Option.Rel (Maps f) = fun v w => v.map f = w :=
    funext fun v => funext fun w => propext rel_maps_iff
  rw [heq, ← List.forall₂_map_left_iff (f := Option.map f), List.forall₂_eq_eq_eq]

namespace Grid

variable {g h : Grid α} {c r : Nat}

theorem cell_map (f : α → α) (g : Grid α) (x y : Nat) : (g.map f).cell x y = (g.cell x y).map f := by
  rw [cell, map, getD_map_nil _ rfl, cell, List.getD_eq_getElem?_getD, List.getElem?_map,
    List.getD_eq_getElem?_getD (l := g.columns.getD x [])]
  cases (g.columns.getD x [])[y]? <;> rfl

theorem HasShape.map (hg : g.HasShape c r) (f : α → α) : (g.map f).HasShape c r := by
  refine ⟨by simpa [Grid.map] using hg.columns, fun column hm => ?_, hg.flat⟩
  obtain ⟨old, ho, rfl⟩ := List.mem_map.1 hm
  rw [List.length_map, hg.rows old ho]

theorem alike_maps_iff : g.Alike (Maps f) h ↔ g.Rectangular ∧ h = g.map f := by
  constructor
  · intro hgh
    obtain ⟨hg, hh⟩ := hgh.hasShape
    refine ⟨hgh.left, hh.ext (hg.map f) fun x _ y _ => ?_⟩
    rw [cell_map, rel_maps_iff.1 (hgh.cell x y)]
  · rintro ⟨hg, rfl⟩
    refine .of_shapes hg.hasShape (hg.hasShape.map f) fun x _ y _ => ?_
    rw [cell_map, rel_maps_iff]

end Grid

/-! ## Images of steps and workbooks -/

def View.map (f : α → α) : View α → View α
  | .cell value => .cell (value.map f)
  | .line cells => .line (cells.map (Option.map f))
  | .lines cells => .lines (cells.map (List.map (Option.map f)))
  | .entries cells => .entries (cells.map fun entry => (entry.1, entry.2.map f))
  | view => view

def Action.map (f : α → α) : Action α → Action α
  | .build source setup => .build (source.map f) setup
  | .clone name => .clone name
  | .edit change => .edit (change.map f)
  | .ask query => .ask (query.map f)
  | .draw overrides => .draw overrides
  | .compare other test => .compare other test

def Step.map (f : α → α) (step : Step α) : Step α := ⟨step.sheet, step.action.map f⟩

/-- An answer and its image. Answers that read the values themselves may differ. -/
inductive Answer.Image (f : α → α) : Answer α → Answer α → Prop where
  | done : Image f .done .done
  | returned (cells : Returned α) : Image f (.returned cells) (.returned (cells.map f))
  | view (view : View α) : Image f (.view view) (.view (view.map f))
  | contained (b b' : Bool) : Image f (.view (.truth b)) (.view (.truth b'))
  | found (p p' : Option Position) : Image f (.view (.place p)) (.view (.place p'))
  | text (text text' : String) : Image f (.text text) (.text text')
  | comparison (c c' : Comparison α) : Image f (.comparison c) (.comparison c')

theorem Returned.Alike.image {returned returned' : Returned α}
    (halike : returned.Alike (Maps f) returned') :
    Answer.Image f (.returned returned) (.returned returned') := by
  cases halike with
  | nothing => exact .returned .nothing
  | cell hcell => rw [← rel_maps_iff.1 hcell]; exact .returned (.cell _)
  | line hcells => rw [← forall₂_maps_iff.1 hcells]; exact .returned (.line _)

theorem View.Alike.image {view view' : View α} (halike : view.Alike (Maps f) view') :
    Answer.Image f (.view view) (.view view') := by
  cases halike with
  | truth b b' => exact .contained b b'
  | place p p' => exact .found p p'
  | cell hcell => rw [← rel_maps_iff.1 hcell]; exact .view (.cell _)
  | line hcells => rw [← forall₂_maps_iff.1 hcells]; exact .view (.line _)
  | @lines lines lines' hlines =>
    have heq : lines.map (List.map (Option.map f)) = lines'.map id :=
      map_eq_map_of_forall₂ hlines fun _ _ => forall₂_maps_iff.1
    rw [List.map_id] at heq
    rw [← heq]; exact .view (.lines _)
  | span span => exact .view (.span span)
  | region region contained => exact .view (.region region contained)
  | size size => exact .view (.size size)
  | @entries entries entries' hentries =>
    have heq : entries.map (fun entry => (entry.1, entry.2.map f)) = entries'.map id :=
      map_eq_map_of_forall₂ hentries fun _ _ he => Prod.ext he.1 (rel_maps_iff.1 he.2)
    rw [List.map_id] at heq
    rw [← heq]; exact .view (.entries _)

structure Reply.Image (f : α → α) (reply reply' : Reply α) : Prop where
  answer : ResultsAlike (Answer.Image f) reply.answer reply'.answer
  size : reply'.sheet.grid.size = reply.sheet.grid.size
  grid : reply'.sheet.grid = reply.sheet.grid.map f
  records : reply'.records = reply.records

def Sheet.map (f : α → α) (sheet : Sheet α) : Sheet α := ⟨sheet.grid.map f, sheet.level, sheet.style⟩

namespace Workbook

variable {book book' : Workbook α}

def Image (f : α → α) (book book' : Workbook α) : Prop :=
  ∀ name, (book.sheet name).grid.Rectangular ∧ book'.sheet name = (book.sheet name).map f

theorem Image.put (hb : book.Image f book') (name : String) {sheet : Sheet α}
    (hs : sheet.grid.Rectangular) :
    (book.put name sheet).Image f (book'.put name (sheet.map f)) := by
  intro other
  rw [sheet_put, sheet_put]
  split
  · exact ⟨hs, rfl⟩
  · exact hb other

theorem Image.look (hb : book.Image f book') (name : String)
    {answer answer' : Except Fault (Answer α)}
    (hanswer : ResultsAlike (Answer.Image f) answer answer') :
    (book.look name answer).1.Image f (book'.look name answer').1 := by
  obtain ⟨hgrid, hsheet⟩ := hb name
  have hmap : (book'.sheet name).grid = (book.sheet name).grid.map f := by rw [hsheet]; rfl
  exact ⟨hanswer, (Grid.alike_maps_iff.2 ⟨hgrid, hmap⟩).size.symm, hmap, rfl⟩

theorem Image.adopt (hb : book.Image f book') (name : String) {sheet sheet' : Sheet α}
    (hlevel : sheet'.level = sheet.level) (hstyle : sheet'.style = sheet.style)
    {draft draft' : Draft α} (hgrid : draft.grid.Alike (Maps f) draft'.grid)
    (hevents : draft.events = draft'.events) {answer answer' : Except Fault (Answer α)}
    (hanswer : ResultsAlike (Answer.Image f) answer answer') :
    (book.adopt name sheet draft answer).1.Image f (book'.adopt name sheet' draft' answer').1 ∧
      (book.adopt name sheet draft answer).2.Image f
        (book'.adopt name sheet' draft' answer').2 := by
  obtain ⟨hrect, hmap⟩ := Grid.alike_maps_iff.1 hgrid
  refine ⟨⟨hanswer, hgrid.size.symm, hmap, ?_⟩, ?_⟩
  · show sheet'.records draft'.events = sheet.records draft.events
    rw [Sheet.records, Sheet.records, hlevel, hevents]
  · have hnew : (sheet'.adopt draft').1 = (sheet.adopt draft).1.map f := by
      simp only [Sheet.adopt, Sheet.map, hmap, hlevel, hstyle]
    show (book.put name (sheet.adopt draft).1).Image f (book'.put name (sheet'.adopt draft').1)
    rw [hnew]
    exact hb.put name hrect

variable [Content α]

/-- A step of a workbook and its image, done to the image of the workbook. -/
theorem Image.perform (hb : book.Image f book') (step : Step α) :
    (book.perform step).1.Image f (book'.perform (step.map f)).1 ∧
      (book.perform step).2.Image f (book'.perform (step.map f)).2 := by
  obtain ⟨name, action⟩ := step
  obtain ⟨hrect, hsheet⟩ := hb name
  have hgrid : (book.sheet name).grid.Alike (Maps f) (book'.sheet name).grid := by
    rw [hsheet]; exact Grid.alike_maps_iff.2 ⟨hrect, rfl⟩
  have hlevel : (book'.sheet name).level = (book.sheet name).level := by rw [hsheet]; rfl
  have hstyle : (book'.sheet name).style = (book.sheet name).style := by rw [hsheet]; rfl
  cases action with
  | build source setup =>
    have hrun := Source.run_alike (R := Maps f) (f := f) (fun _ => rfl) source
    show (book.build name source setup).1.Image f (book'.build name (source.map f) setup).1 ∧
      (book.build name source setup).2.Image f (book'.build name (source.map f) setup).2
    simp only [Workbook.build]
    cases hsetup : (setup.sheet : Except Fault (Sheet α)) with
    | error fault => exact ⟨hb.look name (.error fault), hb⟩
    | ok sheet =>
      obtain ⟨hresult, halike, hevents⟩ := hrun
      rcases hleft : source.run with ⟨built, draft⟩
      rcases hright : (source.map f).run with ⟨built', draft'⟩
      rw [hleft, hright] at hresult halike hevents
      cases hresult with
      | error fault => exact ⟨hb.look name (.error _), hb⟩
      | ok _ => exact hb.adopt name rfl rfl halike hevents (.ok .done)
  | clone target =>
    have hput := hb.put target hrect
    rw [← hsheet] at hput
    exact ⟨hput.look name (.ok .done), hput⟩
  | edit edit =>
    have hrun := edit.run_alike hgrid f fun _ _ => rfl
    exact hb.adopt name hlevel hstyle hrun.grid hrun.events
      (hrun.result.lift Returned.Alike.image Fault.index)
  | ask query =>
    have hanswer := query.answer_alike hgrid f
    exact ⟨hb.look name (hanswer.lift View.Alike.image Fault.index), hb⟩
  | draw overrides =>
    have hdraw : ResultsAlike (fun _ _ => True) ((book.sheet name).draw overrides)
        ((book'.sheet name).draw overrides) := by
      rw [Sheet.draw, Sheet.draw, hstyle]
      cases Style.resolve [(book.sheet name).style, overrides] with
      | error issues => exact .error issues
      | ok style => exact .ok trivial
    exact ⟨hb.look name (hdraw.lift (fun _ => .text _ _) Fault.style), hb⟩
  | compare other test => exact ⟨hb.look name (.ok (.comparison _ _)), hb⟩

theorem Image.run (hb : book.Image f book') (steps : List (Step α)) :
    List.Forall₂ (Reply.Image f) (run steps book) (run (steps.map (Step.map f)) book') := by
  induction steps generalizing book book' with
  | nil => exact .nil
  | cons step steps ih =>
    obtain ⟨hreply, hnext⟩ := hb.perform step
    exact .cons hreply (ih hnext)

end Workbook

/-! ## Other journals -/

/-- The same grid, and styles that come to the same under all overrides. The journals may
differ. -/
structure Sheet.Agree (sheet sheet' : Sheet α) : Prop where
  grid : sheet.grid = sheet'.grid
  style : ∀ overrides,
    Style.resolve [sheet.style, overrides] = Style.resolve [sheet'.style, overrides]

def Setup.Agree (α : Type) (setup setup' : Setup) : Prop :=
  ResultsAlike Sheet.Agree (setup.sheet : Except Fault (Sheet α)) setup'.sheet

inductive Action.Agree : Action α → Action α → Prop where
  | build (source : Source α) {setup setup' : Setup} :
    Setup.Agree α setup setup' → Agree (.build source setup) (.build source setup')
  | same (action : Action α) : Agree action action

structure Step.Agree (step step' : Step α) : Prop where
  sheet : step.sheet = step'.sheet
  action : step.action.Agree step'.action

/-- The journal of the sheet takes all of the events, if its level is one of the two lowest,
and else none of them. -/
def Reply.Journals (reply : Reply α) (events : List Event) : Prop :=
  let low := reply.sheet.level = some (.atLeast .trace) ∨ reply.sheet.level = some (.atLeast .debug)
  (low → reply.records = events.map Event.record) ∧ (¬low → reply.records = [])

structure Reply.Agree (reply reply' : Reply α) : Prop where
  answer : reply.answer = reply'.answer
  grid : reply.sheet.grid = reply'.sheet.grid
  records : ∃ events, reply.Journals events ∧ reply'.Journals events

theorem Sheet.Agree.refl (sheet : Sheet α) : sheet.Agree sheet := ⟨rfl, fun _ => rfl⟩

theorem Reply.journals_records (answer : Except Fault (Answer α)) (sheet : Sheet α)
    (events : List Event) : Reply.Journals ⟨answer, sheet, sheet.records events⟩ events := by
  have hlow : ∀ level : Level, some level = some (.atLeast .trace) ∨
      some level = some (.atLeast .debug) ↔ level.accepts .debug := by
    intro level
    rw [Level.accepts_debug_iff, Option.some_inj, Option.some_inj]
  rcases sheet with ⟨grid, _ | level, style⟩
  · exact ⟨fun h => (by cases h <;> contradiction), fun _ => rfl⟩
  · simp only [Reply.Journals, Sheet.records, Level.keep_map_record, hlow]
    exact ⟨fun h => if_pos h, fun h => if_neg h⟩

namespace Setup

theorem Agree.refl (setup : Setup) : setup.Agree α setup := by
  rw [Agree]
  cases setup.sheet with
  | error fault => exact .error fault
  | ok sheet => exact .ok (.refl sheet)

theorem Agree.symm {setup setup' : Setup} (hagree : setup.Agree α setup') :
    setup'.Agree α setup := by
  rw [Agree] at hagree ⊢
  generalize (setup.sheet : Except Fault (Sheet α)) = left,
    (setup'.sheet : Except Fault (Sheet α)) = right at hagree ⊢
  cases hagree with
  | error fault => exact .error fault
  | ok hsheet => exact .ok ⟨hsheet.grid.symm, fun overrides => (hsheet.style overrides).symm⟩

theorem agree_of_ok {setup setup' : Setup} {sheet sheet' : Sheet α}
    (hsheet : setup.sheet = .ok sheet) (hsheet' : setup'.sheet = .ok sheet')
    (hagree : sheet.Agree sheet') : Setup.Agree α setup setup' := by
  rw [Setup.Agree, hsheet, hsheet']
  exact .ok hagree

variable {level level' : String}

theorem agree_configured (hlevel : (Level.ofName? level).isSome)
    (hlevel' : (Level.ofName? level').isSome) (style : Datum) :
    Setup.Agree α (configured level style) (configured level' style) := by
  obtain ⟨accepted, hlevel⟩ := Option.isSome_iff_exists.1 hlevel
  obtain ⟨accepted', hlevel'⟩ := Option.isSome_iff_exists.1 hlevel'
  exact agree_of_ok (sheet_configured hlevel style) (sheet_configured hlevel' style)
    ⟨rfl, fun _ => rfl⟩

theorem agree_styled (hlevel : (Level.ofName? level).isSome) (fields : List (String × Datum)) :
    Setup.Agree α (configured level (.record fields)) (styled (.record fields)) := by
  obtain ⟨accepted, hlevel⟩ := Option.isSome_iff_exists.1 hlevel
  exact agree_of_ok (sheet_configured hlevel _) rfl ⟨rfl, fun _ => rfl⟩

theorem agree_plain (hlevel : (Level.ofName? level).isSome) :
    Setup.Agree α (configured level .null) plain := by
  obtain ⟨accepted, hlevel⟩ := Option.isSome_iff_exists.1 hlevel
  exact agree_of_ok (sheet_configured hlevel _) rfl ⟨rfl, fun _ => rfl⟩

theorem agree_environment {env env' : Environment}
    (hlevel : (Level.ofName? (Settings.ofEnvironment env).level).isSome)
    (hlevel' : (Level.ofName? (Settings.ofEnvironment env').level).isSome)
    (hothers : ∀ name, name ≠ "ELASTIC_MATRIX_LOG_LEVEL" → env name = env' name) :
    Setup.Agree α (environment env) (environment env') := by
  obtain ⟨accepted, hlevel⟩ := Option.isSome_iff_exists.1 hlevel
  obtain ⟨accepted', hlevel'⟩ := Option.isSome_iff_exists.1 hlevel'
  have hstyle : (Settings.ofEnvironment env).style = (Settings.ofEnvironment env').style := by
    simp only [Settings.ofEnvironment]
    rw [hothers _ (by decide), hothers _ (by decide), hothers _ (by decide), hothers _ (by decide)]
  exact agree_of_ok (sheet_environment hlevel) (sheet_environment hlevel')
    ⟨rfl, fun _ => by rw [hstyle]⟩

end Setup

namespace Workbook

variable {book book' : Workbook α}

def Agree (book book' : Workbook α) : Prop := ∀ name, (book.sheet name).Agree (book'.sheet name)

theorem Agree.put (hb : book.Agree book') (name : String) {sheet sheet' : Sheet α}
    (hs : sheet.Agree sheet') : (book.put name sheet).Agree (book'.put name sheet') := by
  intro other
  rw [sheet_put, sheet_put]
  split
  · exact hs
  · exact hb other

theorem Agree.look (hb : book.Agree book') (name : String) {answer answer' : Except Fault (Answer α)}
    (hanswer : answer = answer') :
    (book.look name answer).1.Agree (book'.look name answer').1 := by
  have hquiet : ∀ book : Workbook α, ∀ answer, (book.look name answer).1.Journals [] :=
    fun _ _ => ⟨fun _ => rfl, fun _ => rfl⟩
  exact ⟨hanswer, (hb name).grid, [], hquiet book answer, hquiet book' answer'⟩

theorem Agree.adopt (hb : book.Agree book') (name : String) {sheet sheet' : Sheet α}
    (hs : sheet.Agree sheet') (draft : Draft α) (answer : Except Fault (Answer α)) :
    (book.adopt name sheet draft answer).1.Agree (book'.adopt name sheet' draft answer).1 ∧
      (book.adopt name sheet draft answer).2.Agree (book'.adopt name sheet' draft answer).2 := by
  have hjournals : ∀ (book : Workbook α) (sheet : Sheet α),
      (book.adopt name sheet draft answer).1.Journals draft.events :=
    fun _ sheet => Reply.journals_records answer (sheet.adopt draft).1 draft.events
  exact ⟨⟨rfl, rfl, draft.events, hjournals book sheet, hjournals book' sheet'⟩,
    hb.put name ⟨rfl, hs.style⟩⟩

theorem Agree.build (hb : book.Agree book') (name : String) (source : Source α)
    {setup setup' : Setup} (hsetup : setup.Agree α setup') :
    (book.build name source setup).1.Agree (book'.build name source setup').1 ∧
      (book.build name source setup).2.Agree (book'.build name source setup').2 := by
  rw [Setup.Agree] at hsetup
  simp only [Workbook.build]
  generalize (setup.sheet : Except Fault (Sheet α)) = left,
    (setup'.sheet : Except Fault (Sheet α)) = right at hsetup ⊢
  cases hsetup with
  | error fault => exact ⟨hb.look name rfl, hb⟩
  | ok hagree =>
    rcases source.run with ⟨fault | _, draft⟩
    · exact ⟨hb.look name rfl, hb⟩
    · exact hb.adopt name hagree draft _

variable [Content α]

theorem Agree.perform (hb : book.Agree book') {step step' : Step α} (hstep : step.Agree step') :
    (book.perform step).1.Agree (book'.perform step').1 ∧
      (book.perform step).2.Agree (book'.perform step').2 := by
  obtain ⟨name, action⟩ := step
  obtain ⟨name', action'⟩ := step'
  obtain ⟨rfl, haction⟩ := hstep
  have hgrid := (hb name).grid
  cases haction with
  | build source hsetup => exact hb.build name source hsetup
  | same action =>
    cases action with
    | build source setup => exact hb.build name source (.refl setup)
    | clone target =>
      have hput := hb.put target (hb name)
      exact ⟨hput.look name rfl, hput⟩
    | edit edit =>
      simp only [Workbook.perform, ← hgrid]
      exact hb.adopt name (hb name) _ _
    | ask query => exact ⟨hb.look name (by rw [hgrid]), hb⟩
    | draw overrides =>
      refine ⟨hb.look name ?_, hb⟩
      rw [Sheet.draw, Sheet.draw, (hb name).style, hgrid]
    | compare other test =>
      refine ⟨hb.look name ?_, hb⟩
      rw [Workbook.compare, Workbook.compare, hgrid, (hb other).grid]

theorem Agree.run (hb : book.Agree book') {steps steps' : List (Step α)}
    (hsteps : List.Forall₂ Step.Agree steps steps') :
    List.Forall₂ Reply.Agree (run steps book) (run steps' book') := by
  induction hsteps generalizing book book' with
  | nil => exact .nil
  | cons hstep _ ih =>
    obtain ⟨hreply, hnext⟩ := hb.perform hstep
    exact .cons hreply (ih hnext)

/-- **A run depends neither on the values of its cells nor on its journals.** Other values lead
to the same faults, sizes and records, and to the images of all cells that are shown. Other
levels of the journals, or none, change nothing but which journals take the records. -/
theorem run_indifferent :
    (∀ (f : α → α) (steps : List (Step α)),
      List.Forall₂ (Reply.Image f) (run steps empty) (run (steps.map (Step.map f)) empty)) ∧
    (∀ steps steps' : List (Step α), List.Forall₂ Step.Agree steps steps' →
      List.Forall₂ Reply.Agree (run steps empty) (run steps' empty)) ∧
    ∀ level, (Level.ofName? level).isSome →
      (∀ level' style, (Level.ofName? level').isSome →
        (Setup.configured level style).Agree α (.configured level' style)) ∧
      (∀ fields, (Setup.configured level (.record fields)).Agree α (.styled (.record fields)) ∧
        (Setup.styled (.record fields)).Agree α (.configured level (.record fields))) ∧
      ((Setup.configured level .null).Agree α .plain ∧
        Setup.plain.Agree α (.configured level .null)) ∧
      ∀ env env', (Settings.ofEnvironment env).level = level →
        (Level.ofName? (Settings.ofEnvironment env').level).isSome →
        (∀ name, name ≠ "ELASTIC_MATRIX_LOG_LEVEL" → env name = env' name) →
        (Setup.environment env).Agree α (.environment env') := by
  refine ⟨fun f steps => ?_, fun steps steps' hsteps => ?_, fun level hlevel => ⟨?_, ?_, ?_, ?_⟩⟩
  · have hempty : (empty : Workbook α).Image f empty := fun _ => ⟨Grid.rectangular_empty, rfl⟩
    exact hempty.run steps
  · exact Agree.run (fun _ => .refl _) hsteps
  · exact fun level' style hlevel' => Setup.agree_configured hlevel hlevel' style
  · exact fun fields => ⟨Setup.agree_styled hlevel fields, (Setup.agree_styled hlevel fields).symm⟩
  · exact ⟨Setup.agree_plain hlevel, (Setup.agree_plain hlevel).symm⟩
  · exact fun env env' henv hlevel' hothers =>
      Setup.agree_environment (henv ▸ hlevel) hlevel' hothers

/-- A row is put in that stretches the grid, an index is refused, the row is packed away. Neither
the falsy values nor the silenced journal make a difference to it. -/
theorem stretched_and_packed_indifferently :
    let steps (level : String) : List (Step Value) := [
      ⟨"a", .build (.ofLines .row [[some (.text ""), none], [some (.number .nan)]])
        (.configured level .null)⟩,
      ⟨"a", .edit (.insert .row .atEnd [none, none, none])⟩,
      ⟨"a", .edit (.setCell (.indexes (.ofNat 3) (.ofNat 0)) (some (.truth false)))⟩,
      ⟨"a", .edit (.pack true true)⟩]
    (run (steps "debug") empty).map (fun reply => reply.records.length) = [0, 1, 0, 1] ∧
    (run (steps "silent") empty).map (fun reply => reply.records.length) = [0, 0, 0, 0] ∧
    List.Forall₂ (Reply.Image fun _ => .truth true) (run (steps "debug") empty)
      (run ((steps "debug").map (Step.map fun _ => .truth true)) empty) ∧
    List.Forall₂ Reply.Agree (run (steps "debug") empty) (run (steps "silent") empty) := by
  intro steps
  have hdebug : (Level.ofName? "debug").isSome := by decide +kernel
  obtain ⟨himage, hagree, hsetup⟩ := run_indifferent (α := Value)
  refine ⟨by decide +kernel, rfl, himage _ _, hagree _ _ ?_⟩
  exact .cons ⟨rfl, .build _ ((hsetup "debug" hdebug).1 "silent" .null rfl)⟩
    (.cons ⟨rfl, .same _⟩ (.cons ⟨rfl, .same _⟩ (.cons ⟨rfl, .same _⟩ .nil)))

end Workbook

end ElasticGrid
