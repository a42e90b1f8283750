import ElasticGrid.Proofs.Pairing
import ElasticGrid.Proofs.Parallel
import ElasticGrid.Value

/-!
# Equal sheets

Values are compared by `Value.same` where no other test is given. It is symmetric and transitive,
it takes the two zeros for one, and `nan` for nothing, not even for `nan`. Equal sheets may
therefore hold other values, but nothing that is done to a sheet finds that out: whatever is done
to both of two equal sheets has equal results and leaves them equal, as long as `nan` is kept away.
-/

namespace ElasticGrid

namespace Number

variable {a b : Number}

/-- Both zeros as one. -/
def oneZero : Number → Number
  | negativeZero => finite 0
  | number => number

theorem same_iff : a.same b ↔ a.oneZero ≠ nan ∧ a.oneZero = b.oneZero := by
  cases a <;> cases b <;> simp [same, value?, oneZero]
  exact eq_comm

theorem oneZero_eq_nan_iff : a.oneZero = nan ↔ a = nan := by cases a <;> simp [oneZero]

theorem text_oneZero (a : Number) : a.oneZero.text = a.text := by
  cases a <;> simp [oneZero, text]

end Number

namespace Value

variable {a b c : Value}

def oneZero : Value → Value
  | number n => number n.oneZero
  | value => value

/-- Equal values differ in the sign of a zero at most, and are not `nan`. -/
def Same (a b : Value) : Prop := a.same b

theorem same_iff : a.Same b ↔ a.oneZero ≠ number .nan ∧ a.oneZero = b.oneZero := by
  cases a <;> cases b <;> simp [Same, same, oneZero, Number.same_iff]

theorem same_self_iff : a.Same a ↔ a ≠ number .nan := by
  cases a <;> simp [same_iff, oneZero, Number.oneZero_eq_nan_iff]

theorem Same.symm (h : a.Same b) : b.Same a := by
  rw [same_iff] at h ⊢
  exact ⟨h.2 ▸ h.1, h.2.symm⟩

theorem Same.trans (hab : a.Same b) (hbc : b.Same c) : a.Same c := by
  rw [same_iff] at hab hbc ⊢
  exact ⟨hab.1, hab.2.trans hbc.2⟩

theorem Same.toText_eq (h : a.Same b) : a.toText = b.toText := by
  have htext : ∀ a : Value, a.oneZero.toText = a.toText := fun a => by
    cases a <;> simp [oneZero, toText, Number.text_oneZero]
  rw [← htext a, (same_iff.1 h).2, htext]

end Value

abbrev SameCells : Option Value → Option Value → Prop := Option.Rel Value.Same

theorem SameCells.symm {v w : Option Value} (h : SameCells v w) : SameCells w v := by
  cases h with
  | some hab => exact .some hab.symm
  | none => exact .none

theorem SameCells.trans {u v w : Option Value} (huv : SameCells u v) (hvw : SameCells v w) :
    SameCells u w := by
  cases huv with
  | some hab => cases hvw with | some hbc => exact .some (hab.trans hbc)
  | none => exact hvw

theorem sameCells_self_iff {v : Option Value} : SameCells v v ↔ v ≠ some (.number .nan) := by
  cases v with
  | none => exact iff_of_true .none (by simp)
  | some a =>
    rw [Option.some_inj.ne, ← Value.same_self_iff]
    exact ⟨fun h => by cases h; assumption, .some⟩

/-! ## Equal grids -/

namespace Grid

variable {g h k : Grid Value}

theorem sameCell_iff {v w : Option Value} : sameCell Value.same v w ↔ SameCells v w :=
  sameCell_iff_rel

theorem Alike.symm (hgh : g.Alike Value.Same h) : h.Alike Value.Same g :=
  ⟨hgh.right, hgh.left, hgh.size.symm, fun x y => SameCells.symm (hgh.cell x y)⟩

theorem Alike.trans (hgh : g.Alike Value.Same h) (hhk : h.Alike Value.Same k) :
    g.Alike Value.Same k :=
  ⟨hgh.left, hhk.right, hgh.size.trans hhk.size, fun x y =>
    SameCells.trans (hgh.cell x y) (hhk.cell x y)⟩

theorem alike_self_iff (hg : g.Rectangular) :
    g.Alike Value.Same g ↔ ∀ x y, g.cell x y ≠ some (.number .nan) :=
  ⟨fun h x y => sameCells_self_iff.1 (h.cell x y),
    fun h => ⟨hg, hg, rfl, fun x y => sameCells_self_iff.2 (h x y)⟩⟩

theorem sameCell_congr {v w : Option Value} (hvw : SameCells v w) (value : Option Value) :
    sameCell Value.same v value = sameCell Value.same w value := by
  rw [Bool.eq_iff_iff, sameCell_iff, sameCell_iff]
  exact ⟨hvw.symm.trans, hvw.trans⟩

/-- A search of lists whose elements pass together comes to an end at the same place. -/
theorem find?_map_congr {γ δ ε : Type} {P : γ → δ → Prop} {l : List γ} {m : List δ}
    (hlm : List.Forall₂ P l m) {p : γ → Bool} {q : δ → Bool} {f : γ → ε} {f' : δ → ε}
    (hpq : ∀ c d, P c d → p c = q d ∧ f c = f' d) :
    (l.find? p).map f = (m.find? q).map f' := by
  induction hlm with
  | nil => rfl
  | @cons c d _ _ hcd _ ih =>
    obtain ⟨hp, hf⟩ := hpq c d hcd
    rw [List.find?_cons, List.find?_cons, hp]
    cases q d
    · exact ih
    · exact congrArg some hf

theorem Alike.firstIndexOf_eq (hgh : g.Alike Value.Same h) (value : Option Value) :
    g.firstIndexOf Value.same value = h.firstIndexOf Value.same value :=
  find?_map_congr hgh.entries fun _ _ he => ⟨sameCell_congr he.2 value, he.1⟩

theorem Alike.lastIndexOf_eq (hgh : g.Alike Value.Same h) (value : Option Value) :
    g.lastIndexOf Value.same value = h.lastIndexOf Value.same value :=
  find?_map_congr (List.rel_reverse hgh.entries) fun _ _ he => ⟨sameCell_congr he.2 value, he.1⟩

/-- Equal grids are searched with the same result, whatever is looked for. -/
theorem Alike.answer_search_eq (hgh : g.Alike Value.Same h) (value : Option Value)
    {search : Option Value → Query Value}
    (hsearch : search ∈ [Query.contains, Query.firstIndexOf, Query.lastIndexOf]) :
    (search value).answer g = (search value).answer h := by
  simp only [List.mem_cons, List.not_mem_nil, or_false] at hsearch
  rcases hsearch with rfl | rfl | rfl
  · simp only [Query.answer, contains, Content.same, hgh.firstIndexOf_eq]
  · simp only [Query.answer, Content.same, hgh.firstIndexOf_eq]
  · simp only [Query.answer, Content.same, hgh.lastIndexOf_eq]

theorem Alike.draw_eq (hgh : g.Alike Value.Same h) (style : Style) :
    style.draw Value.toText g.columns = style.draw Value.toText h.columns := by
  have hcell : ∀ {v w}, SameCells v w →
      style.cellText Value.toText v = style.cellText Value.toText w := fun hvw => by
    cases hvw with
    | some hab => rw [Style.cellText, Style.cellText, hab.toText_eq]
    | none => rfl
  have htexts : g.columns.map (List.map (style.cellText Value.toText)) =
      h.columns.map (List.map (style.cellText Value.toText)) :=
    map_eq_map_of_forall₂ (hgh.lines .column) fun _ _ hcells =>
      map_eq_map_of_forall₂ hcells fun _ _ => hcell
  rw [Style.draw, Style.draw, Style.columnTexts, Style.columnTexts, htexts]

end Grid

/-! ## Equal sheets -/

/-- What can be done to both of two equal sheets: edits that bring no `nan` along, queries, and
copies under further names. -/
def Action.Mirrorable (a b : String) : Action Value → Prop
  | edit change => Value.number .nan ∉ change.supply
  | ask _ => True
  | clone name => name ≠ a ∧ name ≠ b
  | _ => False

/-- Equal answers: the same ones, with equal values in them. -/
inductive Answer.Alike : Answer Value → Answer Value → Prop where
  | done : Alike .done .done
  | returned {cells cells' : Returned Value} :
    cells.Alike Value.Same cells' → Alike (.returned cells) (.returned cells')
  | view {view view' : View Value} : view.Alike Value.Same view' → Alike (.view view) (.view view')

namespace Workbook

variable {book : Workbook Value} {a b c : String}

/-- Whether two sheets are equal where no other test is given. -/
def equal (book : Workbook Value) (a b : String) : Bool := (book.compare a b Value.same).equal

/-- Each action is done to the one sheet, then to the other. -/
def mirrored (a b : String) (actions : List (Action Value)) : List (Step Value) :=
  actions.flatMap fun action => [⟨a, action⟩, ⟨b, action⟩]

theorem equal_self (book : Workbook Value) (a : String) : book.equal a a := by
  rw [equal, compare, if_pos rfl]; rfl

theorem Reached.equal_iff (hb : book.Reached) (hab : a ≠ b) :
    book.equal a b ↔ (book.sheet a).grid.Alike Value.Same (book.sheet b).grid := by
  rw [equal, compare, if_neg hab]
  exact (hb a).rectangular.compare_equal_iff (hb b).rectangular

theorem Reached.equal_symm (hb : book.Reached) (h : book.equal a b) : book.equal b a := by
  by_cases hab : a = b
  · rw [← hab]; exact book.equal_self a
  · rw [hb.equal_iff hab] at h
    exact (hb.equal_iff (Ne.symm hab)).2 h.symm

/-- Where two of the three are one sheet, no cell is looked at: with a `nan` in it, a sheet is equal
to itself alone. -/
theorem Reached.equal_trans (hb : book.Reached) (hab : book.equal a b) (hbc : book.equal b c) :
    book.equal a c := by
  by_cases h1 : a = b
  · rw [h1]; exact hbc
  · by_cases h2 : b = c
    · rw [← h2]; exact hab
    · by_cases h3 : a = c
      · rw [← h3]; exact book.equal_self a
      · rw [hb.equal_iff h1] at hab
        rw [hb.equal_iff h2] at hbc
        exact (hb.equal_iff h3).2 (hab.trans hbc)

theorem sheet_clone (book : Workbook Value) (name target other : String) :
    (book.perform ⟨name, .clone target⟩).2.sheet other =
      if other = target then book.sheet name else book.sheet other := sheet_put ..

theorem mirror_alike (hab : a ≠ b)
    (halike : (book.sheet a).grid.Alike Value.Same (book.sheet b).grid) {action : Action Value}
    (haction : action.Mirrorable a b) :
    let first := book.perform ⟨a, action⟩
    let second := first.2.perform ⟨b, action⟩
    ResultsAlike Answer.Alike first.1.answer second.1.answer ∧
      (second.2.sheet a).grid.Alike Value.Same (second.2.sheet b).grid ∧
      (second.2.sheet a).style = (book.sheet a).style ∧
      (second.2.sheet b).style = (book.sheet b).style := by
  cases action with
  | edit change =>
    have hrun := change.run_alike halike id fun v hv =>
      Value.same_self_iff.2 fun hnan => haction (hnan ▸ hv)
    rw [change.map_id] at hrun
    intro first second
    have hb : first.2.sheet b = book.sheet b := by rw [sheet_edit, if_neg (Ne.symm hab)]
    have hleft : second.2.sheet a = { book.sheet a with
        grid := (change.run (book.sheet a).grid).2.grid } := by
      rw [sheet_edit, if_neg hab, sheet_edit, if_pos rfl]
    have hright : second.2.sheet b = { book.sheet b with
        grid := (change.run (book.sheet b).grid).2.grid } := by
      rw [sheet_edit, if_pos rfl, hb]
    have hanswer : second.1.answer =
        ((change.run (book.sheet b).grid).1.map .returned).mapError .index := by rw [← hb]; rfl
    rw [hleft, hright, hanswer]
    exact ⟨hrun.result.lift .returned Fault.index, hrun.grid, rfl, rfl⟩
  | ask query =>
    have hanswer := query.answer_alike halike id
    rw [query.map_id] at hanswer
    exact ⟨hanswer.lift .view Fault.index, halike, rfl, rfl⟩
  | clone name =>
    obtain ⟨ha, hb⟩ := haction
    intro first second
    have hleft : second.2.sheet a = book.sheet a := by
      rw [sheet_clone, if_neg (Ne.symm ha), sheet_clone, if_neg (Ne.symm ha)]
    have hright : second.2.sheet b = book.sheet b := by
      rw [sheet_clone, if_neg (Ne.symm hb), sheet_clone, if_neg (Ne.symm hb)]
    rw [hleft, hright]
    exact ⟨.ok .done, halike, rfl, rfl⟩
  | _ => exact haction.elim

/-- Equal sheets stay equal, whatever is done to both, and their styles stay what they are. -/
theorem mirrored_alike (hab : a ≠ b)
    (halike : (book.sheet a).grid.Alike Value.Same (book.sheet b).grid)
    {actions : List (Action Value)} (hactions : ∀ action ∈ actions, action.Mirrorable a b) :
    let later := book.after (mirrored a b actions)
    (later.sheet a).grid.Alike Value.Same (later.sheet b).grid ∧
      (later.sheet a).style = (book.sheet a).style ∧
      (later.sheet b).style = (book.sheet b).style := by
  induction actions generalizing book with
  | nil => exact ⟨halike, rfl, rfl⟩
  | cons action actions ih =>
    obtain ⟨haction, hrest⟩ := List.forall_mem_cons.1 hactions
    obtain ⟨-, hnext, hleft, hright⟩ := mirror_alike hab halike haction
    obtain ⟨hlater, hleft', hright'⟩ := ih hnext hrest
    exact ⟨hlater, hleft'.trans hleft, hright'.trans hright⟩

/-- **Equality is an equivalence short of `nan` and a congruence.** What is done to both of two
equal sheets, step by step, has equal answers and leaves them equal; they are searched and drawn
alike. -/
theorem Reached.equality (hb : book.Reached) :
    (∀ a, book.equal a a) ∧ (∀ a b, book.equal a b → book.equal b a) ∧
    (∀ a b c, book.equal a b → book.equal b c → book.equal a c) ∧
    (∀ a b, a ≠ b → ((book.perform ⟨a, .clone b⟩).2.equal a b ↔
      ∀ x y, (book.sheet a).grid.cell x y ≠ some (.number .nan))) ∧
    ∀ a b, a ≠ b → book.equal a b →
      ∀ actions, (∀ action ∈ actions, Action.Mirrorable a b action) →
        let later := book.after (mirrored a b actions)
        later.equal a b ∧
        (∀ action, Action.Mirrorable a b action →
          ResultsAlike Answer.Alike (later.perform ⟨a, action⟩).1.answer
            ((later.perform ⟨a, action⟩).2.perform ⟨b, action⟩).1.answer) ∧
        (∀ value, ∀ search ∈ [Query.contains, Query.firstIndexOf, Query.lastIndexOf],
          (later.perform ⟨a, .ask (search value)⟩).1.answer =
            (later.perform ⟨b, .ask (search value)⟩).1.answer) ∧
        ((book.sheet a).style = (book.sheet b).style → ∀ overrides,
          (later.perform ⟨a, .draw overrides⟩).1.answer =
            (later.perform ⟨b, .draw overrides⟩).1.answer) := by
  refine ⟨book.equal_self, fun _ _ => hb.equal_symm, fun _ _ _ => hb.equal_trans,
    fun a b hab => ?_, fun a b hab hequal actions hactions => ?_⟩
  · rw [(hb.perform _).equal_iff hab, sheet_clone, sheet_clone, if_neg hab, if_pos rfl]
    exact Grid.alike_self_iff (hb a).rectangular
  · obtain ⟨halike, hleft, hright⟩ := mirrored_alike hab ((hb.equal_iff hab).1 hequal) hactions
    intro later
    refine ⟨((hb.after _).equal_iff hab).2 halike, fun action haction => ?_,
      fun value search hsearch => ?_, fun hstyle overrides => ?_⟩
    · exact (mirror_alike hab halike haction).1
    · have hanswer := halike.answer_search_eq value hsearch
      exact congrArg (fun found => (found.map Answer.view).mapError Fault.index) hanswer
    · have hdraw : (later.sheet a).draw overrides = (later.sheet b).draw overrides := by
        rw [Sheet.draw, Sheet.draw, hleft, hright, hstyle]
        exact congrArg (Except.map · _) (funext halike.draw_eq)
      exact congrArg (fun drawn => (drawn.map (Answer.text (α := Value))).mapError Fault.style) hdraw

/-- One sheet holds the one zero, another sheet the other one. A row is put into both of them,
and they are turned: they are still equal, though not the same. -/
theorem zeros_stay_equal :
    let zero (n : Number) : Sheet Value :=
      ⟨(Source.ofLines .row [[some (.number n)]]).run.2.grid, none, .null⟩
    let book := (empty.put "a" (zero (.ofNat 0))).put "b" (zero .negativeZero)
    let later := book.after (mirrored "a" "b"
      [.edit (.insert .row .atEnd [none, some (.text "x")]), .clone "c", .edit (.turn true)])
    book.Reached ∧ book.equal "a" "b" ∧ later.equal "a" "b" ∧
      (later.sheet "a").grid ≠ (later.sheet "b").grid := by
  intro zero book later
  have hb : book.Reached := (reached_empty.put "a" (.built rfl)).put "b" (.built rfl)
  have hequal : book.equal "a" "b" := by decide
  obtain ⟨hlater, -⟩ := hb.equality.2.2.2.2 "a" "b" (by decide) hequal
    [.edit (.insert .row .atEnd [none, some (.text "x")]), .clone "c", .edit (.turn true)]
    (by simp [Action.Mirrorable, Edit.supply, content])
  exact ⟨hb, hequal, hlater, by decide⟩

end Workbook

end ElasticGrid
