import ElasticGrid.Proofs.Counting
import Mathlib.Data.List.Forall2

/-!
# Spans and regions, gone through

A region that was accepted can be gone through in two ways, asked for a position and asked for its
size. All of this tells of the same positions: they come in the order of columns and none comes
twice, a position comes just if the region contains it, and there are as many as the size says. A
span does the same for indexes, of which a float may be any, and counting up to an index is exact.
-/

namespace ElasticGrid

theorem Number.ofInt_sub {i j : Nat} (h : i ≤ j) : ofInt (j - i) = ofNat (j - i) := by
  rw [← Int.ofNat_sub h]
  rfl

namespace Position

variable {p q : Position}

def Made (p : Position) : Prop := ∃ x y, ofNumbers x y = .ok p

theorem made_iff : p.Made ↔ p.x < 2 ^ 53 ∧ p.y < 2 ^ 53 := by
  constructor
  · rintro ⟨x, y, h⟩
    obtain ⟨hx, hy⟩ := ofNumbers_eq_ok_iff.1 h
    exact ⟨hx.2, hy.2⟩
  · rintro ⟨hx, hy⟩
    exact ⟨_, _, ofNumbers_eq_ok_iff.2 ⟨Number.isIndex_ofNat hx, Number.isIndex_ofNat hy⟩⟩

theorem Made.ofNumbers_eq (h : p.Made) : ofNumbers (.ofNat p.x) (.ofNat p.y) = .ok p := by
  obtain ⟨hx, hy⟩ := made_iff.1 h
  exact ofNumbers_eq_ok_iff.2 ⟨Number.isIndex_ofNat hx, Number.isIndex_ofNat hy⟩

end Position

/-! ## Spans -/

namespace Span

variable {start stop : Number} {i j : Nat} {s : Span}

theorem ofNumbers_of_le (hi : start.IsIndex i) (hj : stop.IsIndex j) (h : i ≤ j) :
    ofNumbers start stop = .ok ⟨i, j, h⟩ := by
  rw [ofNumbers, hi.requireIndex, hj.requireIndex]
  exact dif_pos h

theorem ofNumbers_of_lt (hi : start.IsIndex i) (hj : stop.IsIndex j) (h : j < i) :
    ofNumbers start stop = .error (.reversedSpan i j) := by
  rw [ofNumbers, hi.requireIndex, hj.requireIndex]
  exact dif_neg (Nat.not_le_of_lt h)

theorem isIndex_of_ofNumbers (h : ofNumbers start stop = .ok s) :
    start.IsIndex s.start ∧ stop.IsIndex s.stop := by
  obtain ⟨i, hi, h⟩ := bind_eq_ok_iff.1 h
  obtain ⟨j, hj, h⟩ := bind_eq_ok_iff.1 h
  rw [Number.requireIndex_eq_ok_iff, Number.toIndex?_eq_some_iff] at hi hj
  split at h
  · cases h
    exact ⟨hi, hj⟩
  · cases h

theorem includes_iff {n : Number} : s.includes n ↔ ∃ i ∈ s.toList, n.same (.ofNat i) := by
  have hsame : ∀ i : Nat, n.same (.ofNat i) ↔ n.toInt? = some (i : Int) := fun i =>
    Number.same_ofNat_iff.trans Number.toInt?_eq_some_iff.symm
  simp only [hsame, includes, mem_toList]
  cases n.toInt? with
  | none => simp
  | some z =>
    simp only [Bool.and_eq_true, decide_eq_true_eq, Option.some_inj]
    constructor
    · intro h
      exact ⟨z.toNat, by omega, by omega⟩
    · rintro ⟨i, hi, rfl⟩
      omega

theorem getElem?_toList (s : Span) (k : Nat) :
    s.toList[k]? = if k < s.stop - s.start then some (s.start + k) else none := by
  rw [toList, size]
  split
  · next h => rw [List.getElem?_range' h, Nat.one_mul]
  · next h => rw [List.getElem?_eq_none (by simpa using Nat.le_of_not_lt h)]

/-- What is gone through in a span that was made from two numbers. -/
structure Enumerated (s : Span) (start stop : Number) : Prop where
  bounds : start.IsIndex s.start ∧ stop.IsIndex s.stop
  /-- One index after the other, from the start to below the stop. -/
  getElem?_toList : ∀ k : Nat,
    s.toList[k]? = if k < s.stop - s.start then some (s.start + k) else none
  fold : ∀ {β : Type} (f : β → Nat → β) (b : β), s.fold f b = s.toList.foldl f b
  /-- Counting up in floats comes to an end and meets each index once. -/
  counted : (∃ l, stop.CountsUp start l) ∧
    ∀ l, stop.CountsUp start l → List.Forall₂ Number.IsIndex l s.toList
  includes_iff : ∀ n, s.includes n ↔ ∃ i ∈ s.toList, n.same (.ofNat i)

theorem enumerated (h : ofNumbers start stop = .ok s) : s.Enumerated start stop where
  bounds := isIndex_of_ofNumbers h
  getElem?_toList := s.getElem?_toList
  fold := s.fold_eq_foldl_toList
  counted := by
    obtain ⟨hstart, hstop⟩ := isIndex_of_ofNumbers h
    exact ⟨Number.exists_countsUp hstart hstop, fun _ hl => hl.forall₂ hstart hstop⟩
  includes_iff _ := includes_iff

end Span

/-! ## Regions -/

namespace Region

variable {r : Region} {p : Position} {bounds : List Bound}

theorem mem_toList :
    p ∈ r.toList ↔ (r.first.x ≤ p.x ∧ p.x < r.last.x) ∧ r.first.y ≤ p.y ∧ p.y < r.last.y := by
  have h := r.contains_eq_decide_mem p
  rw [contains, Span.includes_ofNat, Span.includes_ofNat, ← Bool.decide_and, decide_eq_decide,
    Span.mem_toList, Span.mem_toList] at h
  exact h.symm

theorem length_toList (r : Region) : r.toList.length = r.size.x * r.size.y := by
  have hcolumn : ∀ x, (r.ySpan.toList.map fun y => Position.mk x y).length = r.size.y := fun x => by
    rw [List.length_map, Span.length_toList]
    rfl
  rw [toList, List.length_flatMap]
  simp only [hcolumn, List.map_const', List.sum_replicate_nat, Span.length_toList]
  rfl

theorem nodup_toList (r : Region) : r.toList.Nodup :=
  r.pairwise_toList.imp fun h heq => (heq ▸ h).asymm (heq ▸ h)

theorem isEmpty_iff : r.isEmpty ↔ r.toList = [] := by
  have := r.x_le
  have := r.y_le
  rw [← List.length_eq_zero_iff, length_toList, Nat.mul_eq_zero, isEmpty, Bool.or_eq_true,
    beq_iff_eq, beq_iff_eq, size]
  simp only
  omega

theorem ofPositions_of_le {first last : Position} (hx : first.x ≤ last.x)
    (hy : first.y ≤ last.y) : ofPositions first last = .ok ⟨first, last, hx, hy⟩ := by
  rw [ofPositions, dif_pos hx, dif_pos hy]

theorem corners_of_ofPositions {first last : Position} (h : ofPositions first last = .ok r) :
    r.first = first ∧ r.last = last := by
  unfold ofPositions at h
  split at h
  · split at h
    · cases h; exact ⟨rfl, rfl⟩
    · cases h
  · cases h

theorem eq_ok_of_mapError {β : Type} {found : Except IndexFault β} {b : β}
    (h : found.mapError RegionFault.index = .ok b) : found = .ok b := by
  cases found with
  | error fault => cases h
  | ok c => cases h; rfl

theorem made_of_ofBounds (hmade : ∀ p, .position p ∈ bounds → p.Made)
    (h : ofBounds bounds = .ok r) : r.first.Made ∧ r.last.Made := by
  rcases bounds with _ | ⟨x1 | first, rest⟩
  · cases h
  · obtain ⟨y1, -, h⟩ := bind_eq_ok_iff.1 h
    obtain ⟨first, hfirst, h⟩ := bind_eq_ok_iff.1 h
    obtain ⟨x2, -, h⟩ := bind_eq_ok_iff.1 h
    obtain ⟨y2, -, h⟩ := bind_eq_ok_iff.1 h
    obtain ⟨last, hlast, h⟩ := bind_eq_ok_iff.1 h
    obtain ⟨rfl, rfl⟩ := corners_of_ofPositions (eq_ok_of_mapError h)
    exact ⟨⟨x1, y1, eq_ok_of_mapError hfirst⟩, ⟨x2, y2, eq_ok_of_mapError hlast⟩⟩
  · rcases rest with _ | ⟨x2 | last, rest⟩
    · cases h
    · cases h
    · obtain ⟨rfl, rfl⟩ := corners_of_ofPositions (eq_ok_of_mapError h)
      exact ⟨hmade _ (by simp), hmade _ (by simp)⟩

/-- Four numbers are made into two corners, the first one first. -/
theorem ofBounds_numbers_eq (x1 y1 x2 y2 : Number) :
    ofBounds [.number x1, .number y1, .number x2, .number y2] = (do
      let first ← (Position.ofNumbers x1 y1).mapError .index
      let last ← (Position.ofNumbers x2 y2).mapError .index
      ofBounds [.position first, .position last]) := rfl

theorem ofBounds_numbers {x1 y1 x2 y2 : Number} {a b c d : Nat} (hx1 : x1.IsIndex a)
    (hy1 : y1.IsIndex b) (hx2 : x2.IsIndex c) (hy2 : y2.IsIndex d) :
    ofBounds [.number x1, .number y1, .number x2, .number y2] =
      (ofPositions ⟨a, b⟩ ⟨c, d⟩).mapError .index := by
  have hfirst : Position.ofNumbers x1 y1 = .ok ⟨a, b⟩ := Position.ofNumbers_eq_ok_iff.2 ⟨hx1, hy1⟩
  have hlast : Position.ofNumbers x2 y2 = .ok ⟨c, d⟩ := Position.ofNumbers_eq_ok_iff.2 ⟨hx2, hy2⟩
  rw [ofBounds_numbers_eq, hfirst, hlast]
  rfl

structure Enumerated (r : Region) : Prop where
  /-- Both ways of going through meet the same positions in the same order. -/
  fold : ∀ {β : Type} (f : β → Position → β) (b : β), r.fold f b = r.toList.foldl f b
  ascending : r.toList.Pairwise Position.Before
  nodup : r.toList.Nodup
  mem_iff_contains : ∀ p, p ∈ r.toList ↔ r.contains p
  mem_iff : ∀ p, p ∈ r.toList ↔
    (r.first.x ≤ p.x ∧ p.x < r.last.x) ∧ r.first.y ≤ p.y ∧ p.y < r.last.y
  /-- Each of the positions can be made. -/
  made : ∀ p ∈ r.toList, Position.ofNumbers (.ofNat p.x) (.ofNat p.y) = .ok p
  length : r.toList.length = r.size.x * r.size.y
  isEmpty_iff : r.isEmpty ↔ r.toList = []
  /-- The size can be made, and it is that of the spans. -/
  size : Position.ofNumbers (.ofInt (r.last.x - r.first.x)) (.ofInt (r.last.y - r.first.y)) =
    .ok r.size
  size_spans : r.size = ⟨r.xSpan.size, r.ySpan.size⟩
  xSpan : Span.ofNumbers (.ofNat r.first.x) (.ofNat r.last.x) = .ok r.xSpan
  ySpan : Span.ofNumbers (.ofNat r.first.y) (.ofNat r.last.y) = .ok r.ySpan

theorem enumerated (hfirst : r.first.Made) (hlast : r.last.Made) : r.Enumerated := by
  obtain ⟨hx1, hy1⟩ := Position.made_iff.1 hfirst
  obtain ⟨hx2, hy2⟩ := Position.made_iff.1 hlast
  have hsize : r.size.Made :=
    Position.made_iff.2 ⟨Nat.lt_of_le_of_lt (Nat.sub_le _ _) hx2,
      Nat.lt_of_le_of_lt (Nat.sub_le _ _) hy2⟩
  exact {
    fold := r.fold_eq_foldl_toList
    ascending := r.pairwise_toList
    nodup := r.nodup_toList
    mem_iff_contains := fun p => by rw [contains_eq_decide_mem, decide_eq_true_iff]
    mem_iff := fun p => mem_toList
    made := fun p hp => by
      have hinside := mem_toList.1 hp
      exact Position.Made.ofNumbers_eq (Position.made_iff.2 ⟨by omega, by omega⟩)
    length := r.length_toList
    isEmpty_iff := isEmpty_iff
    size := by
      rw [Number.ofInt_sub r.x_le, Number.ofInt_sub r.y_le]
      exact hsize.ofNumbers_eq
    size_spans := rfl
    xSpan := Span.ofNumbers_of_le (Number.isIndex_ofNat hx1) (Number.isIndex_ofNat hx2) r.x_le
    ySpan := Span.ofNumbers_of_le (Number.isIndex_ofNat hy1) (Number.isIndex_ofNat hy2) r.y_le }

/-- **What is gone through, what is contained and how much there is of it agree**, in every region
and every span that is accepted; a start that is not past its end always is. -/
theorem enumeration_agrees :
    (∀ bounds r, (∀ p, .position p ∈ bounds → p.Made) → ofBounds bounds = .ok r → r.Enumerated) ∧
    (∀ {x1 y1 x2 y2 : Number} {a b c d : Nat}, x1.IsIndex a → y1.IsIndex b → x2.IsIndex c →
      y2.IsIndex d → ∀ (hx : a ≤ c) (hy : b ≤ d),
      ofBounds [.number x1, .number y1, .number x2, .number y2] =
        .ok ⟨⟨a, b⟩, ⟨c, d⟩, hx, hy⟩) ∧
    (∀ start stop s, Span.ofNumbers start stop = .ok s → s.Enumerated start stop) ∧
    ∀ {start stop : Number} {i j : Nat}, start.IsIndex i → stop.IsIndex j → ∀ h : i ≤ j,
      Span.ofNumbers start stop = .ok ⟨i, j, h⟩ := by
  refine ⟨fun bounds r hmade h => ?_, fun hx1 hy1 hx2 hy2 hx hy => ?_,
    fun start stop s => Span.enumerated, fun hi hj h => Span.ofNumbers_of_le hi hj h⟩
  · obtain ⟨hfirst, hlast⟩ := made_of_ofBounds hmade h
    exact enumerated hfirst hlast
  · rw [ofBounds_numbers hx1 hy1 hx2 hy2, ofPositions_of_le hx hy]
    rfl

/-- A span at the end of the indexes, and a region that has columns but no row. -/
theorem last_indexes_and_no_row :
    let start := Number.ofNat (2 ^ 53 - 3)
    let stop := Number.ofNat (2 ^ 53 - 1)
    (∃ s, Span.ofNumbers start stop = .ok s ∧ s.toList = [2 ^ 53 - 3, 2 ^ 53 - 2] ∧
      (∀ l, stop.CountsUp start l → l.length = 2) ∧
      ¬s.includes (.finite (2 ^ 53 - 5 / 2)) ∧ ¬s.includes .nan) ∧
    ∃ r, ofBounds [.number .negativeZero, .number (.ofNat 1), .number stop, .number (.ofNat 1)] =
      .ok r ∧ r.toList = [] ∧ r.toList.length = (2 ^ 53 - 1) * 0 ∧
        Position.ofNumbers stop (.ofNat 0) = .ok r.size := by
  intro start stop
  obtain ⟨hregion, hbounds, hspan, hends⟩ := enumeration_agrees
  have hzero : Number.negativeZero.IsIndex 0 := Number.toIndex?_eq_some_iff.1 (by decide)
  have hone : (Number.ofNat 1).IsIndex 1 := Number.isIndex_ofNat (by decide)
  have hstart : start.IsIndex (2 ^ 53 - 3) := Number.isIndex_ofNat (by decide)
  have hstop : stop.IsIndex (2 ^ 53 - 1) := Number.isIndex_ofNat (by decide)
  have hs := hends hstart hstop (by decide)
  have hr := hbounds hzero hone hstop hone (by decide) (by decide)
  have hcounted := (hspan _ _ _ hs).counted.2
  have henumerated := hregion _ _ (fun p hp => by simp at hp) hr
  refine ⟨⟨_, hs, rfl, fun l hl => (hcounted l hl).length_eq, by decide +kernel, by decide +kernel⟩,
    ⟨_, hr, henumerated.isEmpty_iff.1 rfl, henumerated.length, henumerated.size⟩⟩

end Region

end ElasticGrid
