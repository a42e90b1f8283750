import ElasticGrid.Proofs.Enumeration
import ElasticGrid.Proofs.Refusal

/-!
# Two ways to name cells

A cell is named by two indexes or by the position that is made from them, and a region by four
indexes or by two positions. Positions are made before any grid is looked at, while indexes are
looked up one by one. So the two ways may tell of different numbers, but only if one of the numbers
is no index, and then both are refused (`StepsAgree`).
-/

namespace ElasticGrid

variable {α β : Type}

def Number.Indexes (numbers : List Number) : Prop := ∀ n ∈ numbers, ∃ i, n.IsIndex i

theorem Number.indexes_pair_iff {x y : Number} :
    Indexes [x, y] ↔ ∃ p : Position, x.IsIndex p.x ∧ y.IsIndex p.y := by
  rw [Indexes, List.forall_mem_cons, List.forall_mem_singleton]
  exact ⟨fun ⟨⟨i, hi⟩, j, hj⟩ => ⟨⟨i, j⟩, hi, hj⟩, fun ⟨p, hx, hy⟩ => ⟨⟨p.x, hx⟩, p.y, hy⟩⟩

theorem Number.indexes_four_iff {x1 y1 x2 y2 : Number} :
    Indexes [x1, y1, x2, y2] ↔ (∃ p : Position, x1.IsIndex p.x ∧ y1.IsIndex p.y) ∧
      ∃ q : Position, x2.IsIndex q.x ∧ y2.IsIndex q.y := by
  rw [← indexes_pair_iff, ← indexes_pair_iff]
  have happend : [x1, y1, x2, y2] = [x1, y1] ++ [x2, y2] := rfl
  rw [happend]
  exact List.forall_mem_append

namespace IndexFault

variable {fault told : IndexFault}

/-- A number that was to be an index of a position is none. -/
def OfPosition (fault : IndexFault) : Prop :=
  ∃ axis number, fault = .notAnIndex (.coordinate axis) number

/-- A number that was to be the index of a line is none, or there is no such line. -/
def OfLine (fault : IndexFault) : Prop :=
  (∃ axis number, fault = .notAnIndex (.line axis) number) ∨
    ∃ axis index total, fault = .noSuchLine axis index total

theorem OfPosition.head?_message (h : fault.OfPosition) :
    fault.message.toList.head? = some 'X' ∨ fault.message.toList.head? = some 'Y' := by
  obtain ⟨axis, number, rfl⟩ := h
  have hmessage : (notAnIndex (.coordinate axis) number).message =
      axis.letter ++ " coordinate" ++ " out of bounds: " ++ number.text := rfl
  rw [hmessage]
  cases axis <;> simp [Axis.letter]

theorem OfLine.head?_message (h : fault.OfLine) :
    fault.message.toList.head? = some 'C' ∨ fault.message.toList.head? = some 'R' := by
  obtain ⟨axis, number, rfl⟩ | ⟨axis, index, total, rfl⟩ := h
  · have hmessage : (notAnIndex (.line axis) number).message =
        axis.title ++ " out of bounds: " ++ number.text := rfl
    rw [hmessage]
    cases axis <;> simp [Axis.title]
  · have hmessage : (noSuchLine axis index total).message =
        axis.title ++ " " ++ toString index ++ " doesn't exist in a total of " ++
          toString total := rfl
    rw [hmessage]
    cases axis <;> simp [Axis.title]

/-- A message begins with the letter of an axis or with its title. -/
theorem OfPosition.report_ne (h : fault.OfPosition) (h' : told.OfLine) :
    fault.report ≠ told.report := by
  intro heq
  have hmessage : fault.message = told.message := congrArg IndexReport.message heq
  have hletter := h.head?_message
  rw [hmessage] at hletter
  rcases hletter with hletter | hletter <;> rcases h'.head?_message with htitle | htitle <;>
    · rw [hletter] at htitle
      exact absurd htitle (by decide)

end IndexFault

theorem Number.eq_of_requireIndex_eq_error {role : Role} {n : Number} {fault : IndexFault}
    (h : n.requireIndex role = .error fault) : fault = .notAnIndex role n := by
  unfold Number.requireIndex at h
  split at h
  · cases h
  · exact (Except.error.inj h).symm

theorem Position.ofNumbers_cases (x y : Number) :
    (∃ p : Position, x.IsIndex p.x ∧ y.IsIndex p.y) ∨
      ∃ told, told.OfPosition ∧ ofNumbers x y = .error told := by
  cases hp : ofNumbers x y with
  | ok p => exact .inl ⟨p, ofNumbers_eq_ok_iff.1 hp⟩
  | error told =>
    refine .inr ⟨told, ?_, rfl⟩
    rcases bind_eq_error_iff.1 hp with hx | ⟨_, -, hp⟩
    · exact ⟨_, _, Number.eq_of_requireIndex_eq_error hx⟩
    · rcases bind_eq_error_iff.1 hp with hy | ⟨_, -, hp⟩
      · exact ⟨_, _, Number.eq_of_requireIndex_eq_error hy⟩
      · cases hp

theorem CellAddress.numbers_position_eq_error {x y : Number} {told : IndexFault}
    (h : Position.ofNumbers x y = .error told) : (position x y).numbers = .error told := by
  rw [numbers, h]
  rfl

/-! ## What is found in a grid -/

/-- What is found by indexes and what is found by the positions made from them: the same if all of
the numbers are indexes, and else nothing, for different reasons. -/
structure LookupsAgree (byIndexes byPositions : Except IndexFault β) (numbers : List Number) :
    Prop where
  same : Number.Indexes numbers → byPositions = byIndexes
  refused : ¬Number.Indexes numbers → ∃ fault told, byIndexes = .error fault ∧
    byPositions = .error told ∧ told.report ≠ fault.report

namespace Grid

variable {g : Grid α} {x y : Number} {fault : IndexFault}

theorem ofLine_of_lineAt {axis : Axis} {index : Number} (h : g.lineAt axis index = .error fault) :
    fault.OfLine := by
  rcases bind_eq_error_iff.1 h with h | ⟨i, -, h⟩
  · exact .inl ⟨axis, index, Number.eq_of_requireIndex_eq_error h⟩
  · split at h
    · cases h
    · exact .inr ⟨axis, i, g.count axis, (Except.error.inj h).symm⟩

theorem ofLine_of_cellAt (h : g.cellAt x y = .error fault) : fault.OfLine := by
  rcases bind_eq_error_iff.1 h with hx | ⟨_, -, h⟩
  · exact ofLine_of_lineAt hx
  · rcases bind_eq_error_iff.1 h with hy | ⟨_, -, h⟩
    · exact ofLine_of_lineAt hy
    · cases h

theorem isIndex_of_cellAt {p : Position} (h : g.cellAt x y = .ok p) :
    x.IsIndex p.x ∧ y.IsIndex p.y := by
  obtain ⟨i, hx, h⟩ := bind_eq_ok_iff.1 h
  obtain ⟨j, hy, h⟩ := bind_eq_ok_iff.1 h
  cases h
  rw [lineAt_eq_ok_iff, Number.toIndex?_eq_some_iff] at hx hy
  exact ⟨hx.1, hy.1⟩

theorem findCell_position {p : Position} (hx : x.IsIndex p.x) (hy : y.IsIndex p.y) :
    g.findCell (.position x y) = g.findCell (.indexes x y) := by
  rw [findCell, CellAddress.numbers_position hx hy]
  exact g.cellAt_ofNat hx hy

theorem agree_findCell (g : Grid α) (x y : Number) :
    LookupsAgree (g.findCell (.indexes x y)) (g.findCell (.position x y)) [x, y] where
  same h := by
    obtain ⟨p, hx, hy⟩ := Number.indexes_pair_iff.1 h
    exact findCell_position hx hy
  refused h := by
    rw [Number.indexes_pair_iff] at h
    obtain hp | ⟨told, htold, hposition⟩ := Position.ofNumbers_cases x y
    · exact absurd hp h
    cases hcell : g.cellAt x y with
    | ok p => exact absurd ⟨p, isIndex_of_cellAt hcell⟩ h
    | error fault =>
      refine ⟨fault, told, hcell, ?_, htold.report_ne (ofLine_of_cellAt hcell)⟩
      rw [findCell, CellAddress.numbers_position_eq_error hposition]
      rfl

/-- Both positions are made before one of the cells is looked up. -/
theorem agree_findPair (g : Grid α) (x1 y1 x2 y2 : Number) :
    LookupsAgree (g.findPair (.indexes x1 y1) (.indexes x2 y2))
      (g.findPair (.position x1 y1) (.position x2 y2)) [x1, y1, x2, y2] where
  same h := by
    obtain ⟨⟨p, hx1, hy1⟩, q, hx2, hy2⟩ := Number.indexes_four_iff.1 h
    rw [findPair, findPair, CellAddress.numbers_position hx1 hy1,
      CellAddress.numbers_position hx2 hy2]
    simp only [CellAddress.numbers, bind, Except.bind, g.cellAt_ofNat hx1 hy1,
      g.cellAt_ofNat hx2 hy2]
  refused h := by
    rw [Number.indexes_four_iff] at h
    obtain ⟨told, htold, hpositions⟩ : ∃ told, told.OfPosition ∧
        g.findPair (.position x1 y1) (.position x2 y2) = .error told := by
      obtain hp | ⟨told, htold, hfirst⟩ := Position.ofNumbers_cases x1 y1
      · obtain hq | ⟨told, htold, hsecond⟩ := Position.ofNumbers_cases x2 y2
        · exact absurd ⟨hp, hq⟩ h
        · obtain ⟨p, hx1, hy1⟩ := hp
          refine ⟨told, htold, ?_⟩
          rw [findPair, CellAddress.numbers_position hx1 hy1,
            CellAddress.numbers_position_eq_error hsecond]
          rfl
      · refine ⟨told, htold, ?_⟩
        rw [findPair, CellAddress.numbers_position_eq_error hfirst]
        rfl
    obtain ⟨p, q, -, hp, hq⟩ | ⟨fault, hfound, hcell⟩ :=
      g.findPair_cases (.indexes x1 y1) (.indexes x2 y2)
    · exact absurd ⟨⟨p, isIndex_of_cellAt hp⟩, q, isIndex_of_cellAt hq⟩ h
    · have hline : fault.OfLine := hcell.elim ofLine_of_cellAt ofLine_of_cellAt
      exact ⟨fault, told, hfound, hpositions, htold.report_ne hline⟩

end Grid

namespace Region

variable {x1 y1 x2 y2 : Number}

theorem ofBounds_numbers_eq_ok_iff {r : Region} :
    ofBounds [.number x1, .number y1, .number x2, .number y2] = .ok r ↔
      (x1.IsIndex r.first.x ∧ y1.IsIndex r.first.y) ∧ x2.IsIndex r.last.x ∧ y2.IsIndex r.last.y := by
  constructor
  · intro h
    rw [ofBounds_numbers_eq] at h
    obtain ⟨first, hfirst, h⟩ := bind_eq_ok_iff.1 h
    obtain ⟨last, hlast, h⟩ := bind_eq_ok_iff.1 h
    obtain ⟨rfl, rfl⟩ := corners_of_ofPositions (eq_ok_of_mapError h)
    exact ⟨Position.ofNumbers_eq_ok_iff.1 (eq_ok_of_mapError hfirst),
      Position.ofNumbers_eq_ok_iff.1 (eq_ok_of_mapError hlast)⟩
  · rintro ⟨⟨hx1, hy1⟩, hx2, hy2⟩
    rw [ofBounds_numbers hx1 hy1 hx2 hy2, ofPositions_of_le r.x_le r.y_le]
    rfl

/-- A region is refused for one of its numbers or, if they are indexes, for their order. -/
theorem ofBounds_numbers_eq_error {fault : RegionFault}
    (h : ofBounds [.number x1, .number y1, .number x2, .number y2] = .error fault) :
    ∃ told, fault = .index told ∧ (told.OfPosition ↔ ¬Number.Indexes [x1, y1, x2, y2]) := by
  by_cases hn : Number.Indexes [x1, y1, x2, y2]
  · obtain ⟨⟨p, hx1, hy1⟩, q, hx2, hy2⟩ := Number.indexes_four_iff.1 hn
    rw [ofBounds_numbers hx1 hy1 hx2 hy2, ofPositions] at h
    have hreversed : ∀ axis i j, ¬(IndexFault.reversedRegion axis i j).OfPosition := by
      rintro axis i j ⟨_, _, hfault⟩
      cases hfault
    split at h
    · split at h
      · cases h
      · exact ⟨_, (Except.error.inj h).symm, iff_of_false (hreversed _ _ _) (not_not_intro hn)⟩
    · exact ⟨_, (Except.error.inj h).symm, iff_of_false (hreversed _ _ _) (not_not_intro hn)⟩
  · rw [ofBounds_numbers_eq] at h
    obtain hfirst | ⟨told, htold, hfirst⟩ := Position.ofNumbers_cases x1 y1
    · obtain hlast | ⟨told, htold, hlast⟩ := Position.ofNumbers_cases x2 y2
      · exact absurd (Number.indexes_four_iff.2 ⟨hfirst, hlast⟩) hn
      · obtain ⟨first, hfirst⟩ := hfirst
        rw [Position.ofNumbers_eq_ok_iff.2 hfirst, hlast] at h
        exact ⟨told, (Except.error.inj h).symm, iff_of_true htold hn⟩
    · rw [hfirst] at h
      exact ⟨told, (Except.error.inj h).symm, iff_of_true htold hn⟩

end Region

/-! ## Steps of a workbook -/

/-- The first action names its cells by the numbers, and the second one by the positions that are
made from them. -/
inductive Action.Readdressed : Action α → Action α → List Number → Prop where
  | get (x y : Number) :
    Readdressed (.ask (.cell (.indexes x y))) (.ask (.cell (.position x y))) [x, y]
  | set (x y : Number) (value : Option α) :
    Readdressed (.edit (.setCell (.indexes x y) value)) (.edit (.setCell (.position x y) value))
      [x, y]
  | swap (x1 y1 x2 y2 : Number) :
    Readdressed (.edit (.swapCells (.indexes x1 y1) (.indexes x2 y2)))
      (.edit (.swapCells (.position x1 y1) (.position x2 y2))) [x1, y1, x2, y2]

namespace Workbook

structure LooksUp (step : Except IndexFault β → Reply α × Workbook α) : Prop where
  accepted : ∀ found, ∃ answer, (step (.ok found)).1.answer = .ok answer
  refused : ∀ fault, (step (.error fault)).1.answer = .error (.index fault)

theorem LooksUp.index_of_answer {step : Except IndexFault β → Reply α × Workbook α}
    (h : LooksUp step) {found : Except IndexFault β} {fault : Fault}
    (hfault : (step found).1.answer = .error fault) : ∃ told, fault = .index told := by
  cases found with
  | ok b =>
    obtain ⟨answer, hanswer⟩ := h.accepted b
    cases hanswer.symm.trans hfault
  | error told => exact ⟨told, (Except.error.inj ((h.refused told).symm.trans hfault)).symm⟩

theorem looksUp_look (book : Workbook α) (name : String) (view : β → View α) :
    LooksUp fun found => book.look name (((found.map view).map .view).mapError .index) where
  accepted _ := ⟨_, rfl⟩
  refused _ := rfl

theorem looksUp_adopt (book : Workbook α) (name : String) (next : β → Returned α × Draft α)
    (draft : Draft α) :
    LooksUp fun found => book.adopt name (book.sheet name) (Editing.attempt found next draft).2
      (((Editing.attempt found next draft).1.map .returned).mapError .index) where
  accepted _ := ⟨_, rfl⟩
  refused _ := rfl

variable [Content α] {book : Workbook α} {name : String} {byIndexes byPositions : Action α}
  {numbers : List Number}

theorem perform_edit (book : Workbook α) (name : String) (change : Edit α) :
    book.perform ⟨name, .edit change⟩ =
      book.adopt name (book.sheet name) (change.run (book.sheet name).grid).2
        (((change.run (book.sheet name).grid).1.map .returned).mapError .index) := rfl

/-- The two actions look their cells up in different ways and then do the same. -/
theorem exists_looksUp (h : byIndexes.Readdressed byPositions numbers) (book : Workbook α)
    (name : String) :
    ∃ (β : Type) (found found' : Except IndexFault β)
      (step : Except IndexFault β → Reply α × Workbook α), LooksUp step ∧
      LookupsAgree found found' numbers ∧ book.perform ⟨name, byIndexes⟩ = step found ∧
      book.perform ⟨name, byPositions⟩ = step found' := by
  cases h with
  | get x y =>
    exact ⟨Position, _, _, _, looksUp_look book name _, Grid.agree_findCell _ x y, rfl, rfl⟩
  | set x y value =>
    rw [perform_edit, perform_edit, Edit.run_setCell, Edit.run_setCell]
    exact ⟨Position, _, _, _, looksUp_adopt book name _ _, Grid.agree_findCell _ x y, rfl, rfl⟩
  | swap x1 y1 x2 y2 =>
    rw [perform_edit, perform_edit, Edit.run_swapCells, Edit.run_swapCells]
    exact ⟨Position × Position, _, _, _, looksUp_adopt book name _ _,
      Grid.agree_findPair _ x1 y1 x2 y2, rfl, rfl⟩

/-- What comes of two actions that name the same cells. -/
structure StepsAgree (book : Workbook α) (byIndexes byPositions : Reply α × Workbook α)
    (numbers : List Number) : Prop where
  accepted : (∃ answer, byIndexes.1.answer = .ok answer) ↔
    ∃ answer, byPositions.1.answer = .ok answer
  /-- The replies are the same, and so are the workbooks that are left. -/
  same : ∀ answer, byIndexes.1.answer = .ok answer → byPositions = byIndexes
  /-- Both are refused for an index; the reports are the same just if the numbers are indexes. -/
  refused : ∀ fault, byIndexes.1.answer = .error fault → ∃ told told', fault = .index told ∧
    byPositions.1.answer = .error (.index told') ∧
    (told.report.raised.isIndexReport ∧ told'.report.raised.isIndexReport) ∧
    (told'.report = told.report ↔ Number.Indexes numbers)
  unchanged : ∀ fault, byIndexes.1.answer = .error fault → ∀ other,
    byIndexes.2.sheet other = book.sheet other ∧ byPositions.2.sheet other = book.sheet other

theorem Reached.stepsAgree (hb : book.Reached) (h : byIndexes.Readdressed byPositions numbers) :
    StepsAgree book (book.perform ⟨name, byIndexes⟩) (book.perform ⟨name, byPositions⟩)
      numbers := by
  obtain ⟨β, found, found', step, hstep, hagree, hindexes, hpositions⟩ :=
    exists_looksUp h book name
  have hunchanged : ∀ fault fault', (step found).1.answer = .error fault →
      (step found').1.answer = .error fault' → ∀ other,
      (step found).2.sheet other = book.sheet other ∧
        (step found').2.sheet other = book.sheet other := by
    rw [← hindexes, ← hpositions]
    exact fun _ _ hfault hfault' other =>
      ⟨(unchanged_of_error hb hfault).2 other, (unchanged_of_error hb hfault').2 other⟩
  rw [hindexes, hpositions]
  by_cases hn : Number.Indexes numbers
  · obtain rfl : found' = found := hagree.same hn
    exact {
      accepted := Iff.rfl
      same := fun _ _ => rfl
      refused := fun fault hfault => by
        obtain ⟨told, rfl⟩ := hstep.index_of_answer hfault
        exact ⟨told, told, rfl, hfault, ⟨told.report.isIndexReport_raised,
          told.report.isIndexReport_raised⟩, iff_of_true rfl hn⟩
      unchanged := fun fault hfault => hunchanged fault fault hfault hfault }
  · obtain ⟨told, told', rfl, rfl, hne⟩ := hagree.refused hn
    have htold := hstep.refused told
    have htold' := hstep.refused told'
    exact {
      accepted := by simp only [htold, htold', reduceCtorEq]
      same := fun answer h => by cases htold.symm.trans h
      refused := fun fault hfault => by
        obtain rfl : .index told = fault := Except.error.inj (htold.symm.trans hfault)
        exact ⟨told, told', rfl, htold', ⟨told.report.isIndexReport_raised,
          told'.report.isIndexReport_raised⟩, iff_of_false hne hn⟩
      unchanged := fun fault hfault => hunchanged fault _ hfault htold' }

/-- **Cells can be named by indexes or by positions**: the same is accepted, the same comes of it and
a refusal changes nothing. What is told of a refusal differs only if a number is no index. The
corners of a region can be given either way too, and there is no difference at all. -/
theorem Reached.naming_agrees (hb : book.Reached) :
    (∀ name byIndexes byPositions numbers, Action.Readdressed byIndexes byPositions numbers →
      StepsAgree book (book.perform ⟨name, byIndexes⟩) (book.perform ⟨name, byPositions⟩)
        numbers) ∧
    ∀ x1 y1 x2 y2 : Number,
      let bounds : List Bound := [.number x1, .number y1, .number x2, .number y2]
      Region.ofBounds bounds = (do
        let first ← (Position.ofNumbers x1 y1).mapError .index
        let last ← (Position.ofNumbers x2 y2).mapError .index
        Region.ofBounds [.position first, .position last]) ∧
      (∀ r, Region.ofBounds bounds = .ok r ↔
        (x1.IsIndex r.first.x ∧ y1.IsIndex r.first.y) ∧ x2.IsIndex r.last.x ∧ y2.IsIndex r.last.y) ∧
      ∀ fault, Region.ofBounds bounds = .error fault → ∃ told, fault = .index told ∧
        (told.OfPosition ↔ ¬Number.Indexes [x1, y1, x2, y2]) := by
  refine ⟨fun name byIndexes byPositions numbers h => hb.stepsAgree h, fun x1 y1 x2 y2 => ?_⟩
  exact ⟨Region.ofBounds_numbers_eq x1 y1 x2 y2, fun r => Region.ofBounds_numbers_eq_ok_iff,
    fun fault h => Region.ofBounds_numbers_eq_error h⟩

/-- A cell in the sixth of two columns, in a row that is none; the cells of a row that are swapped,
with one of the zeros negative; and a region that ends before it starts. -/
theorem cell_beyond_columns_named :
    let number := Number.ofNat
    let source : Source Value := .ofLines .row [[some (.whole 1), none]]
    let book := empty.put "a" ⟨source.run.2.grid, some (.atLeast .debug), .null⟩
    let beyond : Step Value := ⟨"a", .ask (.cell (.indexes (number 5) .nan))⟩
    let beyond' : Step Value := ⟨"a", .ask (.cell (.position (number 5) .nan))⟩
    let swap : Step Value := ⟨"a", .edit (.swapCells (.indexes .negativeZero (number 0))
      (.indexes (number 1) (number 0)))⟩
    let swap' : Step Value := ⟨"a", .edit (.swapCells (.position .negativeZero (number 0))
      (.position (number 1) (number 0)))⟩
    let reversed : RegionFault := .index (.reversedRegion .column 3 1)
    book.Reached ∧
      (book.perform beyond).1.answer = .error (.index (.noSuchLine .column 5 2)) ∧
      (book.perform beyond').1.answer = .error (.index (.notAnIndex (.coordinate .row) .nan)) ∧
      (book.perform beyond').2.sheet "a" = book.sheet "a" ∧
      (book.perform swap).1.answer = .ok (.returned .nothing) ∧
      book.perform swap' = book.perform swap ∧
      ((book.perform swap').2.sheet "a").grid.columns = [[none], [some (.whole 1)]] ∧
      Region.ofBounds [.number (number 3), .number (number 0), .number (number 1),
        .number (number 0)] = .error reversed ∧
      Region.ofBounds [.position ⟨3, 0⟩, .position ⟨1, 0⟩] = .error reversed ∧
      Number.Indexes [number 3, number 0, number 1, number 0] := by
  intro number source book beyond beyond' swap swap' reversed
  have hb : book.Reached := reached_empty.put "a" (.built rfl)
  obtain ⟨hsteps, hregions⟩ := hb.naming_agrees
  have hbeyond := hsteps "a" _ _ _ (.get (number 5) .nan)
  have hswap := hsteps "a" _ _ _ (.swap .negativeZero (number 0) (number 1) (number 0))
  obtain ⟨hcorners, -, hrefused⟩ := hregions (number 3) (number 0) (number 1) (number 0)
  have hanswer : (book.perform beyond).1.answer = .error (.index (.noSuchLine .column 5 2)) :=
    rfl
  have hswapped : (book.perform swap).1.answer = .ok (.returned .nothing) := rfl
  have hsame : book.perform swap' = book.perform swap := hswap.same _ hswapped
  have hreversed : Region.ofBounds [.number (number 3), .number (number 0), .number (number 1),
      .number (number 0)] = .error reversed := by decide +kernel
  obtain ⟨told, htold, hindexes⟩ := hrefused _ hreversed
  refine ⟨hb, hanswer, rfl, (hbeyond.unchanged _ hanswer "a").2, hswapped, hsame, ?_, hreversed,
    hcorners.symm.trans hreversed, ?_⟩
  · rw [hsame]; rfl
  · by_contra hnone
    obtain ⟨_, _, hposition⟩ := hindexes.2 hnone
    cases hposition.symm.trans (RegionFault.index.inj htold).symm

end Workbook

end ElasticGrid
