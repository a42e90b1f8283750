import ElasticGrid.Proofs.Conservation
import ElasticGrid.Proofs.Equality
import ElasticGrid.Proofs.Lines

/-!
# Finding a cell

The cells of a grid that equal a value have their places in the grid, and the positions of a grid
have an order: down a column, then on to the next one. A search finds the first of the places, a
search from the end the last one, and no search finds anything if there is no place.

Reversing both axes turns the order of the positions round (`before_opposite`). What is last in a
grid is therefore first in the reversed grid, in the opposite position.
-/

namespace ElasticGrid

namespace Position

/-- Comes before all other positions of a set. -/
def IsFirstOf (p : Position) (s : Set Position) : Prop := p ∈ s ∧ ∀ q ∈ s, q ≠ p → p.Before q

def IsLastOf (p : Position) (s : Set Position) : Prop := p ∈ s ∧ ∀ q ∈ s, q ≠ p → q.Before p

/-- A map that turns the order round takes what is last to what is first. -/
theorem isFirstOf_image_iff {f : Position → Position} {s : Set Position} {p : Position}
    (hf : ∀ p ∈ s, ∀ q ∈ s, (f p).Before (f q) ↔ q.Before p) (hinj : Set.InjOn f s) (hp : p ∈ s) :
    (f p).IsFirstOf (f '' s) ↔ p.IsLastOf s := by
  rw [IsFirstOf, IsLastOf, Set.forall_mem_image, and_iff_right (Set.mem_image_of_mem f hp),
    and_iff_right hp]
  exact forall₂_congr fun q hq => imp_congr (hinj.ne_iff hq hp) (hf p hp q hq)

end Position

/-- In a list that rises, a search stops at the least of the elements that pass. -/
theorem find?_eq_some_iff_of_pairwise {β : Type} {R : β → β → Prop} (hR : ∀ {a b}, R a b → ¬R b a)
    {l : List β} (hl : l.Pairwise R) {test : β → Bool} {a : β} :
    l.find? test = some a ↔ (a ∈ l ∧ test a) ∧ ∀ b ∈ l, test b → b ≠ a → R a b := by
  rw [List.find?_eq_some_iff_append]
  constructor
  · rintro ⟨ha, before, behind, rfl, hbefore⟩
    obtain ⟨-, hbehind, -⟩ := List.pairwise_append.1 hl
    refine ⟨⟨by simp, ha⟩, fun b hb htest hne => ?_⟩
    rcases List.mem_append.1 hb with hb | hb
    · have hfail := hbefore b hb
      rw [htest] at hfail
      cases hfail
    · exact List.rel_of_pairwise_cons hbehind ((List.mem_cons.1 hb).resolve_left hne)
  · rintro ⟨⟨hm, ha⟩, hleast⟩
    obtain ⟨before, behind, rfl⟩ := List.append_of_mem hm
    obtain ⟨-, -, hrises⟩ := List.pairwise_append.1 hl
    refine ⟨ha, before, behind, rfl, fun b hb => ?_⟩
    have hba : R b a := hrises b hb a List.mem_cons_self
    have hne : b ≠ a := fun heq => hR (heq ▸ hba) (heq ▸ hba)
    cases htest : test b with
    | false => rfl
    | true => exact absurd (hleast b (List.mem_append_left _ hb) htest hne) (hR hba)

/-- A cell with a zero in it, of either sign. -/
def IsZero (cell : Option Value) : Prop :=
  cell = some (.number (.ofNat 0)) ∨ cell = some (.number .negativeZero)

theorem sameCells_iff_isZero {zero : Option Value} (hzero : IsZero zero) {cell : Option Value} :
    SameCells cell zero ↔ IsZero cell := by
  have hone : zero.map Value.oneZero = some (.number (.finite 0)) := by
    rcases hzero with rfl | rfl <;> rfl
  obtain ⟨z, rfl, hz⟩ := Option.map_eq_some_iff.1 hone
  cases cell with
  | none => exact iff_of_false (fun h => nomatch h) (fun h => by rcases h with h | h <;> cases h)
  | some v =>
    have hsame : SameCells (some v) (some z) ↔ v.Same z := ⟨fun h => by cases h; assumption, .some⟩
    rw [hsame, Value.same_iff, hz, IsZero]
    cases v with
    | number n => cases n <;> simp [Value.oneZero, Number.oneZero, Number.ofNat]
    | _ => simp [Value.oneZero]

namespace Grid

variable {g : Grid Value} {value : Option Value} {p q : Position}

/-! ## Places -/

/-- Where the cells are that equal a value. -/
def places (g : Grid Value) (value : Option Value) : Set Position :=
  {p | (p.x < g.columnCount ∧ p.y < g.rowCount) ∧ SameCells (g.get p) value}

theorem Rectangular.firstIndexOf_eq (hg : g.Rectangular) (value : Option Value) :
    g.firstIndexOf Value.same value =
      g.region.toList.find? fun p => sameCell Value.same (g.get p) value := by
  rw [firstIndexOf, hg.hasShape.entries_eq, List.find?_map, Option.map_map]
  exact Option.map_id'

theorem Rectangular.lastIndexOf_eq (hg : g.Rectangular) (value : Option Value) :
    g.lastIndexOf Value.same value =
      g.region.toList.reverse.find? fun p => sameCell Value.same (g.get p) value := by
  rw [lastIndexOf, hg.hasShape.entries_eq, ← List.map_reverse, List.find?_map, Option.map_map]
  exact Option.map_id'

theorem Rectangular.firstIndexOf_eq_some_iff (hg : g.Rectangular) :
    g.firstIndexOf Value.same value = some p ↔ p.IsFirstOf (g.places value) := by
  rw [hg.firstIndexOf_eq, find?_eq_some_iff_of_pairwise Position.Before.asymm
    g.region.pairwise_toList]
  simp only [mem_region, sameCell_iff, Position.IsFirstOf, places, Set.mem_ofPred_eq, and_imp]

theorem Rectangular.lastIndexOf_eq_some_iff (hg : g.Rectangular) :
    g.lastIndexOf Value.same value = some p ↔ p.IsLastOf (g.places value) := by
  rw [hg.lastIndexOf_eq, find?_eq_some_iff_of_pairwise Position.Before.asymm
    (List.pairwise_reverse.2 g.region.pairwise_toList)]
  simp only [List.mem_reverse, mem_region, sameCell_iff, Position.IsLastOf, places,
    Set.mem_ofPred_eq, and_imp]

theorem Rectangular.firstIndexOf_eq_none_iff (hg : g.Rectangular) :
    g.firstIndexOf Value.same value = none ↔ g.places value = ∅ := by
  rw [hg.firstIndexOf_eq, List.find?_eq_none, Set.eq_empty_iff_forall_notMem]
  simp only [mem_region, sameCell_iff, places, Set.mem_ofPred_eq, not_and]

theorem Rectangular.lastIndexOf_eq_none_iff (hg : g.Rectangular) :
    g.lastIndexOf Value.same value = none ↔ g.places value = ∅ := by
  rw [hg.lastIndexOf_eq, List.find?_eq_none, Set.eq_empty_iff_forall_notMem]
  simp only [List.mem_reverse, mem_region, sameCell_iff, places, Set.mem_ofPred_eq, not_and]

/-- What equals nothing, itself included, has no place. -/
theorem places_nan (g : Grid Value) : g.places (some (.number .nan)) = ∅ := by
  rw [Set.eq_empty_iff_forall_notMem]
  rintro p ⟨-, hp⟩
  exact sameCells_self_iff.1 (hp.symm.trans hp) rfl

/-- All zeros have the same places. -/
theorem Rectangular.mem_places_zero_iff (hg : g.Rectangular) (hzero : IsZero value) :
    p ∈ g.places value ↔ IsZero (g.get p) := by
  rw [places, Set.mem_ofPred_eq, sameCells_iff_isZero hzero]
  refine ⟨And.right, fun hp => ⟨?_, hp⟩⟩
  by_contra hout
  have hnone : g.get p = none := hg.hasShape.cell_eq_none (by omega)
  rw [hnone] at hp
  rcases hp with hp | hp <;> cases hp

def reversed (g : Grid Value) : Grid Value := (g.reverse .column).reverse .row

/-- Where the cell of a position is when both axes are reversed. -/
def opposite (g : Grid Value) (p : Position) : Position :=
  ⟨g.columnCount - 1 - p.x, g.rowCount - 1 - p.y⟩

theorem eq_opposite_iff (hp : p.x < g.columnCount ∧ p.y < g.rowCount) :
    q = g.opposite p ↔ q.x + p.x + 1 = g.columnCount ∧ q.y + p.y + 1 = g.rowCount := by
  obtain ⟨x, y⟩ := q
  simp only [opposite, Position.mk.injEq]
  omega

theorem opposite_opposite (hp : p.x < g.columnCount ∧ p.y < g.rowCount) :
    g.opposite (g.opposite p) = p := by
  refine ((eq_opposite_iff ?_).2 ?_).symm <;> simp only [opposite] <;> omega

/-- What comes before comes after on the opposite side. -/
theorem before_opposite (hp : p.x < g.columnCount ∧ p.y < g.rowCount)
    (hq : q.x < g.columnCount ∧ q.y < g.rowCount) :
    (g.opposite p).Before (g.opposite q) ↔ q.Before p := by
  simp only [Position.Before, opposite]
  omega

theorem Rectangular.reversed (hg : g.Rectangular) : g.reversed.Rectangular :=
  (hg.reverse .column).reverse .row

theorem Rectangular.count_reversed (hg : g.Rectangular) (axis : Axis) :
    g.reversed.count axis = g.count axis :=
  ((hg.reverse .column).count_reverse .row axis).trans (hg.count_reverse .column axis)

theorem Rectangular.get_reversed (hg : g.Rectangular)
    (hp : p.x < g.columnCount ∧ p.y < g.rowCount) :
    g.reversed.get p = g.get (g.opposite p) := by
  have hrows : (g.reverse .column).count .row = g.rowCount := hg.count_reverse .column .row
  have hy : p.y < (g.reverse .column).count .row := by rw [hrows]; exact hp.2
  have hrow : g.reversed.get (Axis.row.position p.y p.x) =
      (g.reverse .column).get (Axis.row.position (g.rowCount - 1 - p.y) p.x) := by
    rw [← hrows]
    exact (hg.reverse .column).get_reverse hy p.x
  have hcolumn : (g.reverse .column).get (Axis.column.position p.x (g.rowCount - 1 - p.y)) =
      g.get (g.opposite p) := hg.get_reverse hp.1 _
  exact hrow.trans hcolumn

/-- The places in the reversed grid are the opposite ones. -/
theorem Rectangular.places_reversed (hg : g.Rectangular) (value : Option Value) :
    g.reversed.places value = g.opposite '' g.places value := by
  have hmem : ∀ q, q ∈ g.reversed.places value ↔
      (q.x < g.columnCount ∧ q.y < g.rowCount) ∧
        SameCells (g.get (g.opposite q)) value := fun q => by
    have hx : g.reversed.columnCount = g.columnCount := hg.count_reversed .column
    have hy : g.reversed.rowCount = g.rowCount := hg.count_reversed .row
    rw [places, Set.mem_ofPred_eq, hx, hy]
    exact and_congr_right fun hq => by rw [hg.get_reversed hq]
  ext q
  rw [hmem]
  constructor
  · rintro ⟨hq, hcell⟩
    exact ⟨g.opposite q, ⟨by simp only [opposite]; omega, hcell⟩, opposite_opposite hq⟩
  · rintro ⟨p, ⟨hp, hcell⟩, rfl⟩
    refine ⟨by simp only [opposite]; omega, ?_⟩
    rwa [opposite_opposite hp]

/-- What is found last is what is found first, in the opposite place, in the reversed grid. -/
theorem Rectangular.lastIndexOf_eq_some_iff_reversed (hg : g.Rectangular) :
    g.lastIndexOf Value.same value = some p ↔
      ∃ q : Position, q.x + p.x + 1 = g.columnCount ∧ q.y + p.y + 1 = g.rowCount ∧
        g.reversed.firstIndexOf Value.same value = some q := by
  have hinj : Set.InjOn g.opposite (g.places value) := fun p hp q hq h => by
    rw [← opposite_opposite hp.1, h, opposite_opposite hq.1]
  have himage : ∀ p ∈ g.places value,
      g.reversed.firstIndexOf Value.same value = some (g.opposite p) ↔
        p.IsLastOf (g.places value) := fun p hp => by
    rw [hg.reversed.firstIndexOf_eq_some_iff, hg.places_reversed]
    exact Position.isFirstOf_image_iff (fun p hp q hq => before_opposite hp.1 hq.1) hinj hp
  rw [hg.lastIndexOf_eq_some_iff]
  constructor
  · intro hlast
    obtain ⟨hx, hy⟩ := (eq_opposite_iff hlast.1.1).1 rfl
    exact ⟨g.opposite p, hx, hy, (himage p hlast.1).2 hlast⟩
  · rintro ⟨q, hx, hy, hfirst⟩
    have hp : p.x < g.columnCount ∧ p.y < g.rowCount := by omega
    obtain rfl : q = g.opposite p := (eq_opposite_iff hp).2 ⟨hx, hy⟩
    obtain ⟨hq, -⟩ := hg.reversed.firstIndexOf_eq_some_iff.1 hfirst
    rw [hg.places_reversed] at hq
    obtain ⟨p', hp', heq⟩ := hq
    obtain rfl : p' = p := by rw [← opposite_opposite hp'.1, heq, opposite_opposite hp]
    exact (himage p' hp').1 hfirst

/-! ## Searches -/

/-- **Searches are exact.** The first and the last place of a value are found, and nothing only if
there is no place; so `nan` is never found, and zeros are found by each other. What is found last is
what is found first when both axes are reversed. -/
theorem Reachable.searches_are_exact (hg : g.Reachable) :
    (∀ value, ∃ first last : Option Position,
      (Query.firstIndexOf value).answer g = .ok (.place first) ∧
      (Query.lastIndexOf value).answer g = .ok (.place last) ∧
      (Query.contains value).answer g = .ok (.truth first.isSome) ∧
      (∀ p, first = some p ↔ p.IsFirstOf (g.places value)) ∧
      (∀ p, last = some p ↔ p.IsLastOf (g.places value)) ∧
      (first = none ↔ g.places value = ∅) ∧ (last = none ↔ g.places value = ∅) ∧
      (∀ p, first = some p ∨ last = some p → g.region.contains p) ∧
      ∀ p, last = some p ↔ ∃ q : Position,
        q.x + p.x + 1 = g.columnCount ∧ q.y + p.y + 1 = g.rowCount ∧
          (Query.firstIndexOf value).answer (g.after [.reverse .column, .reverse .row]) =
            .ok (.place (some q))) ∧
    g.places (some (.number .nan)) = ∅ ∧
    ∀ zero, IsZero zero → ∀ p, p ∈ g.places zero ↔ IsZero (g.get p) := by
  have hr := hg.rectangular
  refine ⟨fun value => ⟨_, _, rfl, rfl, rfl, fun p => hr.firstIndexOf_eq_some_iff,
    fun p => hr.lastIndexOf_eq_some_iff, hr.firstIndexOf_eq_none_iff, hr.lastIndexOf_eq_none_iff,
    fun p hp => ?_, fun p => ?_⟩, g.places_nan, fun zero hzero p => hr.mem_places_zero_iff hzero⟩
  · have hplace : p ∈ g.places value := by
      rcases hp with hp | hp
      · exact (hr.firstIndexOf_eq_some_iff.1 hp).1
      · exact (hr.lastIndexOf_eq_some_iff.1 hp).1
    rw [Region.contains_eq_decide_mem, decide_eq_true_iff, mem_region]
    exact hplace.1
  · have hafter : g.after [.reverse .column, .reverse .row] = g.reversed := rfl
    rw [hafter]
    refine hr.lastIndexOf_eq_some_iff_reversed.trans (exists_congr fun q => ?_)
    simp only [Query.answer, Content.same, Except.ok.injEq, View.place.injEq]

/-- A zero of each sign: the one further down, in the column before, is the first. The other one is
the first when the grid is reversed. That `nan` is in two cells is of no use. -/
theorem zeros_found_first_and_last :
    let nan := some (Value.number .nan)
    let zero := some (Value.number .negativeZero)
    let g := (Source.ofLines .row
      [[nan, zero, some (.text "0")], [some (.number (.ofNat 0)), nan, none]]).run.2.grid
    g.Reachable ∧ IsZero zero ∧
      (Query.firstIndexOf zero).answer g = .ok (.place (some ⟨0, 1⟩)) ∧
      (⟨0, 1⟩ : Position).IsFirstOf (g.places zero) ∧
      (⟨1, 0⟩ : Position).IsLastOf (g.places zero) ∧
      (Query.firstIndexOf zero).answer (g.after [.reverse .column, .reverse .row]) =
        .ok (.place (some ⟨1, 1⟩)) ∧
      IsZero (g.get ⟨1, 0⟩) ∧ (Query.contains nan).answer g = .ok (.truth false) := by
  intro nan zero g
  have hg : g.Reachable := .built rfl
  have hzero : IsZero zero := .inr rfl
  have hfound : g.firstIndexOf Value.same zero = some ⟨0, 1⟩ := by decide +kernel
  have hmirror : g.reversed.firstIndexOf Value.same zero = some ⟨1, 1⟩ := by decide +kernel
  obtain ⟨hsearch, hnan, hplaces⟩ := hg.searches_are_exact
  obtain ⟨first, last, hfirst, -, -, hleast, hgreatest, -, -, -, hreversed⟩ := hsearch zero
  obtain ⟨none', -, hnone, -, hcontains, -, -, hempty, -⟩ := hsearch nan
  simp only [Query.answer, Content.same, hfound, Except.ok.injEq, View.place.injEq] at hfirst
  have hlast : last = some ⟨1, 0⟩ :=
    (hreversed ⟨1, 0⟩).2 ⟨⟨1, 1⟩, by decide, by decide, congrArg (Except.ok ∘ View.place) hmirror⟩
  have hlast' := (hgreatest ⟨1, 0⟩).1 hlast
  rw [hempty.2 hnan] at hcontains
  exact ⟨hg, hzero, congrArg (Except.ok ∘ View.place) hfound, (hleast _).1 hfirst.symm, hlast',
    congrArg (Except.ok ∘ View.place) hmirror, (hplaces zero hzero _).1 hlast'.1, hcontains⟩

end Grid

end ElasticGrid
