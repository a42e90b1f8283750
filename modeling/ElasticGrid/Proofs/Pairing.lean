import ElasticGrid.Grid.Compare
import ElasticGrid.Grid.Search
import ElasticGrid.Proofs.Alike
import ElasticGrid.Proofs.Lines
import ElasticGrid.Proofs.Runs
import ElasticGrid.Value
import Mathlib.Data.List.Zip
import Mathlib.Data.Option.NAry

/-!
# Two grids place by place

Grids of one size are compared place by place, down one column after the other. A place where both
cells are absent is passed over, a place where one of them is ends the comparison; where both hold
values these are put to the test, and the comparison ends if they fail. So two values are put to
the test just if all places before theirs match (`Grid.CalledAt`), and the grids are equal if all
places do. Either grid may come first, as long as the test takes its arguments in that order too.
-/

namespace ElasticGrid

variable {α : Type} {test : α → α → Bool}

namespace Comparison

theorem equal_ofCells_iff {l m : List (Option α)} (hlength : l.length = m.length) :
    (ofCells test (l.zip m)).equal ↔ List.Forall₂ (Option.Rel fun a b => test a b) l m := by
  induction l generalizing m with
  | nil =>
    rw [List.eq_nil_of_length_eq_zero hlength.symm]
    exact iff_of_true rfl .nil
  | cons v l ih =>
    obtain _ | ⟨w, m⟩ := m
    · cases hlength
    · rw [List.zip_cons_cons, List.forall₂_cons, ← ih (Nat.succ.inj hlength)]
      cases v <;> cases w <;> simp [ofCells]
      split <;> simp_all [after]

/-- Where both cells hold values, these are put to the test. What comes after is looked at only if
the cells match. -/
theorem calls_ofCells_cons (test : α → α → Bool) (v w : Option α)
    (rest : List (Option α × Option α)) :
    (ofCells test ((v, w) :: rest)).calls =
      (Option.map₂ Prod.mk v w).toList ++
        if Grid.sameCell test v w then (ofCells test rest).calls else [] := by
  cases v with
  | none => cases w <;> rfl
  | some a =>
    cases w with
    | none => rfl
    | some b => cases htest : test a b <;> simp [ofCells, after, Grid.sameCell, htest]

/-- The other way round each pair of cells is put to the test the other way round. -/
theorem ofCells_swap (test : α → α → Bool) (cells : List (Option α × Option α)) :
    ofCells (fun a b => test b a) (cells.map Prod.swap) =
      ⟨(ofCells test cells).equal, (ofCells test cells).calls.map Prod.swap⟩ := by
  induction cells with
  | nil => rfl
  | cons cell cells ih =>
    obtain ⟨v, w⟩ := cell
    rw [List.map_cons, Prod.swap_prod_mk]
    cases v with
    | none =>
      cases w with
      | none => exact ih
      | some b => rfl
    | some a =>
      cases w with
      | none => rfl
      | some b =>
        rw [ofCells, ofCells, ih]
        cases test a b <;> rfl

end Comparison

namespace Grid

variable {g h : Grid α} {p q : Position} {ps : List Position}

theorem sameCell_iff_rel {v w : Option α} :
    sameCell test v w ↔ Option.Rel (fun a b => test a b) v w := by
  cases v <;> cases w <;> simp [sameCell]

/-! ## Places of two grids -/

/-- Both cells are absent, or both hold values that pass the test. -/
def MatchAt (test : α → α → Bool) (g h : Grid α) (p : Position) : Prop :=
  Option.Rel (fun a b => test a b) (g.get p) (h.get p)

instance (g h : Grid α) (p : Position) : Decidable (g.MatchAt test h p) :=
  decidable_of_iff _ sameCell_iff_rel

def pairAt (g h : Grid α) (p : Position) : Option (α × α) := Option.map₂ Prod.mk (g.get p) (h.get p)

/-- Both cells hold values, and all places before match. -/
def CalledAt (test : α → α → Bool) (g h : Grid α) (ps : List Position) (p : Position) : Prop :=
  (g.pairAt h p).isSome ∧ ∀ q ∈ ps, q.Before p → g.MatchAt test h q

instance (g h : Grid α) (ps : List Position) (p : Position) : Decidable (g.CalledAt test h ps p) :=
  inferInstanceAs (Decidable (_ ∧ _))

theorem calledAt_head_iff (hfirst : ∀ q ∈ ps, p.Before q) :
    g.CalledAt test h (p :: ps) p ↔ (g.pairAt h p).isSome := by
  refine and_iff_left fun q hq hqp => ?_
  rcases List.mem_cons.1 hq with rfl | hq
  · exact absurd hqp hqp.asymm
  · exact absurd hqp (hfirst q hq).asymm

theorem calledAt_tail_iff (hpq : p.Before q) :
    g.CalledAt test h (p :: ps) q ↔ g.MatchAt test h p ∧ g.CalledAt test h ps q := by
  rw [CalledAt, CalledAt, List.forall_mem_cons]
  constructor
  · rintro ⟨hboth, hp, hrest⟩
    exact ⟨hp hpq, hboth, hrest⟩
  · rintro ⟨hp, hboth, hrest⟩
    exact ⟨hboth, fun _ => hp, hrest⟩

theorem pairAt_swap (g h : Grid α) (p : Position) :
    h.pairAt g p = (g.pairAt h p).map Prod.swap := by
  cases hg : g.get p <;> cases hh : h.get p <;> simp [pairAt, hg, hh]

/-- In a row of places, those are called that the definition says. -/
theorem calls_ofCells (test : α → α → Bool) (g h : Grid α)
    (hsorted : ps.Pairwise Position.Before) :
    (Comparison.ofCells test (ps.map fun p => (g.get p, h.get p))).calls.map some =
      (ps.filter fun p => g.CalledAt test h ps p).map (g.pairAt h) := by
  induction ps with
  | nil => rfl
  | cons p ps ih =>
    obtain ⟨hfirst, hrest⟩ := List.pairwise_cons.1 hsorted
    have htail : List.map some (if sameCell test (g.get p) (h.get p) then
          (Comparison.ofCells test (ps.map fun p => (g.get p, h.get p))).calls else []) =
        (ps.filter fun q => g.CalledAt test h (p :: ps) q).map (g.pairAt h) := by
      by_cases hp : g.MatchAt test h p
      · have hsame : ∀ q ∈ ps, g.CalledAt test h (p :: ps) q ↔ g.CalledAt test h ps q :=
          fun q hq => (calledAt_tail_iff (hfirst q hq)).trans (and_iff_right hp)
        rw [if_pos (sameCell_iff_rel.2 hp), ih hrest]
        exact congrArg _ (List.filter_congr fun q hq => decide_eq_decide.2 (hsame q hq).symm)
      · have hnone : ∀ q ∈ ps, ¬g.CalledAt test h (p :: ps) q := fun q hq hcalled =>
          hp ((calledAt_tail_iff (hfirst q hq)).1 hcalled).1
        rw [if_neg fun hsame => hp (sameCell_iff_rel.1 hsame),
          List.filter_eq_nil_iff.2 fun q hq => by simpa using hnone q hq]
        rfl
    rw [List.map_cons, Comparison.calls_ofCells_cons, List.map_append, htail, List.filter_cons]
    simp only [decide_eq_true_iff, calledAt_head_iff hfirst]
    show List.map some (g.pairAt h p).toList ++ _ = _
    cases hboth : g.pairAt h p with
    | none => rfl
    | some pair => simp [hboth]

theorem Rectangular.values_eq (hg : g.Rectangular) : g.values = g.region.toList.map g.get := by
  rw [values_eq_map_entries, hg.hasShape.entries_eq, List.map_map]
  rfl

theorem Rectangular.compare_of_size (hg : g.Rectangular) (hh : h.Rectangular)
    (hsize : g.size = h.size) :
    g.compare test h = .ofCells test (g.region.toList.map fun p => (g.get p, h.get p)) := by
  have hregion : h.region = g.region := by simp only [region, hsize]
  rw [compare, if_pos hsize, hg.values_eq, hh.values_eq, hregion, List.zip_map']

theorem compare_of_size_ne (hsize : g.size ≠ h.size) : g.compare test h = ⟨false, []⟩ :=
  if_neg hsize

theorem Rectangular.compare_equal_iff (hg : g.Rectangular) (hh : h.Rectangular) :
    (g.compare test h).equal ↔ g.Alike (fun a b => test a b) h := by
  rw [alike_iff_values hg hh, compare]
  by_cases hsize : g.size = h.size
  · have hregion : g.region = h.region := by simp only [region, hsize]
    have hlength : g.values.length = h.values.length := by
      rw [hg.values_eq, hh.values_eq, hregion, List.length_map, List.length_map]
    rw [if_pos hsize, Comparison.equal_ofCells_iff hlength]
    exact (and_iff_right hsize).symm
  · rw [if_neg hsize]
    exact iff_of_false Bool.false_ne_true fun h => hsize h.1

theorem Rectangular.alike_iff_matchAt (hg : g.Rectangular) (hh : h.Rectangular) :
    g.Alike (fun a b => test a b) h ↔
      g.size = h.size ∧ ∀ p ∈ g.region.toList, g.MatchAt test h p := by
  rw [alike_iff_values hg hh]
  refine and_congr_right fun hsize => ?_
  have hregion : h.region = g.region := by simp only [region, hsize]
  rw [hg.values_eq, hh.values_eq, hregion, List.forall₂_map_left_iff, List.forall₂_map_right_iff,
    List.forall₂_same]
  rfl

/-- The places that are called in a comparison, in the order in which it goes through them. -/
theorem Rectangular.exists_called (hg : g.Rectangular) (hh : h.Rectangular) (test : α → α → Bool) :
    ∃ called : List Position, called.Pairwise Position.Before ∧
      (∀ p, p ∈ called ↔ g.size = h.size ∧ p ∈ g.region.toList ∧
        g.CalledAt test h g.region.toList p) ∧
      (g.compare test h).calls.map some = called.map (g.pairAt h) := by
  by_cases hsize : g.size = h.size
  · have hsorted := g.region.pairwise_toList
    refine ⟨g.region.toList.filter fun p => g.CalledAt test h g.region.toList p,
      hsorted.sublist List.filter_sublist, fun p => ?_, ?_⟩
    · rw [List.mem_filter, decide_eq_true_iff, and_iff_right hsize]
    · rw [hg.compare_of_size hh hsize]
      exact calls_ofCells test g h hsorted
  · refine ⟨[], List.Pairwise.nil, fun p => ?_, ?_⟩
    · exact iff_of_false List.not_mem_nil fun h => hsize h.1
    · rw [compare_of_size_ne hsize]
      rfl

theorem compare_swap (test : α → α → Bool) (g h : Grid α) :
    h.compare (fun a b => test b a) g =
      ⟨(g.compare test h).equal, (g.compare test h).calls.map Prod.swap⟩ := by
  by_cases hsize : g.size = h.size
  · rw [compare, compare, if_pos hsize, if_pos hsize.symm, ← List.zip_swap,
      Comparison.ofCells_swap]
  · rw [compare_of_size_ne hsize, compare_of_size_ne (Ne.symm hsize)]
    rfl

end Grid

/-! ## The comparison of two sheets -/

namespace Workbook

variable [Content α] {book : Workbook α} {a b : String}

omit [Content α] in
theorem compare_self (book : Workbook α) (a : String) (test : α → α → Bool) :
    book.compare a a test = .identical := if_pos rfl

omit [Content α] in
theorem compare_of_ne (hab : a ≠ b) (test : α → α → Bool) :
    book.compare a b test = (book.sheet a).grid.compare test (book.sheet b).grid := if_neg hab

omit [Content α] in
theorem compare_swap (book : Workbook α) (test : α → α → Bool) (a b : String) :
    book.compare b a (fun v w => test w v) =
      ⟨(book.compare a b test).equal, (book.compare a b test).calls.map Prod.swap⟩ := by
  by_cases hab : a = b
  · subst hab
    rw [compare_self, compare_self]
    rfl
  · rw [compare_of_ne hab, compare_of_ne (Ne.symm hab), Grid.compare_swap]

/-- **A comparison goes place by place and stops at the first mismatch.** Two sheets are equal if
they are one, or if they have one size and match everywhere. If they are two of one size, the values
put to the test are those of the places that hold two values and have only matches before them,
down one column after the other. The other way round all is the same, with the values of each pair
exchanged. -/
theorem Reached.comparison_stops_at_mismatch (hb : book.Reached) (test : α → α → Bool)
    (a b : String) :
    let g := (book.sheet a).grid
    let h := (book.sheet b).grid
    let comparison := book.compare a b test
    let turned := book.compare b a fun v w => test w v
    (book.replyTo a (.compare b test)).answer = .ok (.comparison comparison) ∧
    (comparison.equal ↔
      a = b ∨ g.size = h.size ∧ ∀ p ∈ g.region.toList, g.MatchAt test h p) ∧
    (a = b ∨ g.size ≠ h.size → comparison.calls = []) ∧
    turned = ⟨comparison.equal, comparison.calls.map Prod.swap⟩ ∧
    ∃ called : List Position, called.Pairwise Position.Before ∧
      (∀ p, p ∈ called ↔ a ≠ b ∧ g.size = h.size ∧ p ∈ g.region.toList ∧
        g.CalledAt test h g.region.toList p) ∧
      comparison.calls.map some = called.map (g.pairAt h) ∧
      turned.calls.map some = called.map (h.pairAt g) := by
  intro g h comparison turned
  have hg : g.Rectangular := (hb a).rectangular
  have hh : h.Rectangular := (hb b).rectangular
  have hturned : turned = ⟨comparison.equal, comparison.calls.map Prod.swap⟩ :=
    book.compare_swap test a b
  refine ⟨rfl, ?_⟩
  by_cases hab : a = b
  · have hsame : comparison = .identical := if_pos hab
    rw [hturned, hsame]
    refine ⟨iff_of_true rfl (.inl hab), fun _ => rfl, rfl, [], List.Pairwise.nil, ?_, rfl, rfl⟩
    exact fun p => iff_of_false List.not_mem_nil fun h => h.1 hab
  · have hcompare : comparison = g.compare test h := if_neg hab
    obtain ⟨called, hsorted, hmem, hcalls⟩ := hg.exists_called hh test
    rw [hturned, hcompare]
    refine ⟨?_, ?_, rfl, called, hsorted, fun p => ?_, hcalls, ?_⟩
    · rw [hg.compare_equal_iff hh, hg.alike_iff_matchAt hh, or_iff_right hab]
    · rintro (hsame | hsize)
      · exact absurd hsame hab
      · rw [Grid.compare_of_size_ne hsize]
    · rw [hmem, and_iff_right hab]
    · calc ((g.compare test h).calls.map Prod.swap).map some
          = ((g.compare test h).calls.map some).map (Option.map Prod.swap) := by
            rw [List.map_map, List.map_map]; rfl
        _ = called.map (h.pairAt g) := by
            rw [hcalls, List.map_map]
            exact List.map_congr_left fun p _ => (g.pairAt_swap h p).symm

/-- With a test of widths, `b` and `aa` are not reached, since the pair before them fails. Behind a
cell that is absent on one side only, nothing is tested any more. -/
theorem widths_compared :
    let text (s : String) : Option Value := some (.text s)
    let sheet (columns : List (List (Option Value))) : Sheet Value :=
      ⟨(Source.ofLines .column columns).run.2.grid, none, .null⟩
    let book := ((empty.put "a" (sheet [[text "a", none], [text "bb", text "b"]])).put "b"
      (sheet [[text "cc", none], [text "d", text "aa"]])).put "c"
      (sheet [[text "a", none], [none, text "b"]])
    let g := (book.sheet "a").grid
    let h := (book.sheet "b").grid
    book.Reached ∧ ¬(book.compare "a" "b" Value.notLonger).equal ∧
      (book.compare "b" "a" fun v w => w.notLonger v).calls =
        [(.text "cc", .text "a"), (.text "d", .text "bb")] ∧
      (∃ called : List Position, called.Pairwise Position.Before ∧
        ⟨0, 0⟩ ∈ called ∧ ⟨1, 0⟩ ∈ called ∧ ⟨1, 1⟩ ∉ called ∧
        called.map (g.pairAt h) =
          [some (.text "a", .text "cc"), some (.text "bb", .text "d")]) ∧
      ¬(book.compare "a" "c" Value.notLonger).equal ∧
      (book.compare "a" "c" Value.notLonger).calls = [(.text "a", .text "a")] := by
  intro text sheet book g h
  have hb : book.Reached :=
    ((reached_empty.put "a" (.built rfl)).put "b" (.built rfl)).put "c" (.built rfl)
  obtain ⟨-, hequal, -, hturned, called, hsorted, hmem, hcalls, -⟩ :=
    hb.comparison_stops_at_mismatch Value.notLonger "a" "b"
  obtain ⟨-, hequal', -⟩ := hb.comparison_stops_at_mismatch Value.notLonger "a" "c"
  refine ⟨hb, ?_, ?_, ⟨called, hsorted, ?_, ?_, ?_, ?_⟩, ?_, ?_⟩
  · rw [hequal]; decide
  · rw [hturned]; decide
  · rw [hmem]; decide
  · rw [hmem]; decide
  · rw [hmem]; decide
  · rw [← hcalls]; decide
  · rw [hequal']; decide
  · decide

end Workbook

end ElasticGrid
