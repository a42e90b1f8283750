import ElasticGrid.Proofs.Enumeration

/-!
# Spans and regions that end before they start

The limit that comes with a refused index is meant as the bound that the index has to stay below
(`TellsBound`), and for lines and slots it is. Two ends may coincide, though, so that the bound for
a start lies one past the end, and the limit of a reversed span or region is the end. Such a limit
is no bound that anything stays below: it is the last start that passes (`TellsLast`).
-/

namespace ElasticGrid

namespace IndexFault

variable {fault : IndexFault} {passes : Number → Prop}

/-- The limit, if there is one, is the bound of the check: the index had reached it, and the indexes
that pass are those below. -/
def TellsBound (fault : IndexFault) (passes : Number → Prop) : Prop :=
  ∀ i limit : Nat, fault.index = .ofNat i → fault.limit = some limit →
    limit ≤ i ∧ ∀ n k, n.IsIndex k → (passes n ↔ k < limit)

/-- There is a limit, and it is the last index that passes the check. -/
def TellsLast (fault : IndexFault) (passes : Number → Prop) : Prop :=
  ∃ i limit : Nat, fault.index = .ofNat i ∧ fault.limit = some limit ∧
    (limit < i ∧ i < 2 ^ 53) ∧ ∀ n k, n.IsIndex k → (passes n ↔ k ≤ limit)

theorem TellsLast.not_tellsBound (h : fault.TellsLast passes) : ¬fault.TellsBound passes := by
  obtain ⟨i, limit, hindex, hlimit, ⟨hlt, hi⟩, hpasses⟩ := h
  intro hbound
  have hself : (Number.ofNat limit).IsIndex limit := Number.isIndex_ofNat (Nat.lt_trans hlt hi)
  have hpassed : passes (.ofNat limit) := (hpasses _ _ hself).2 (Nat.le_refl limit)
  exact Nat.lt_irrefl limit (((hbound i limit hindex hlimit).2 _ _ hself).1 hpassed)

end IndexFault

/-! ## Reversed spans and regions -/

namespace Span

variable {start stop : Number} {i j : Nat}

/-- Is refused because it ends before it starts. -/
def Reversed (start stop : Number) : Prop :=
  ∃ i j, ofNumbers start stop = .error (.reversedSpan i j)

theorem reversed_iff (hi : start.IsIndex i) (hj : stop.IsIndex j) :
    Reversed start stop ↔ j < i := by
  constructor
  · rintro ⟨_, _, h⟩
    by_contra hle
    rw [ofNumbers_of_le hi hj (Nat.le_of_not_lt hle)] at h
    cases h
  · exact fun h => ⟨i, j, ofNumbers_of_lt hi hj h⟩

theorem ofNumbers_eq_error_iff (hi : start.IsIndex i) (hj : stop.IsIndex j) {fault : IndexFault} :
    ofNumbers start stop = .error fault ↔ j < i ∧ fault = .reversedSpan i j := by
  by_cases h : j < i
  · rw [ofNumbers_of_lt hi hj h, Except.error.injEq, eq_comm, and_iff_right h]
  · rw [ofNumbers_of_le hi hj (Nat.le_of_not_lt h)]
    exact iff_of_false (by simp) fun h' => h h'.1

theorem tellsLast (hi : start.IsIndex i) (hj : stop.IsIndex j) {fault : IndexFault}
    (h : ofNumbers start stop = .error fault) : fault.TellsLast fun n => ¬Reversed n stop := by
  obtain ⟨hlt, rfl⟩ := (ofNumbers_eq_error_iff hi hj).1 h
  exact ⟨i, j, rfl, rfl, ⟨hlt, hi.2⟩, fun n k hk =>
    (not_congr (reversed_iff hk hj)).trans Nat.not_lt⟩

theorem tellsBound_iff (hi : start.IsIndex i) (hj : stop.IsIndex j) :
    (∀ fault, ofNumbers start stop = .error fault →
      fault.TellsBound fun n => ¬Reversed n stop) ↔ i ≤ j := by
  constructor
  · intro hbound
    refine Nat.le_of_not_lt fun hlt => ?_
    have h := ofNumbers_of_lt hi hj hlt
    exact (tellsLast hi hj h).not_tellsBound (hbound _ h)
  · intro hle fault h
    exact absurd hle (Nat.not_le_of_lt ((ofNumbers_eq_error_iff hi hj).1 h).1)

end Span

namespace Region

variable {x1 y1 x2 y2 : Number} {a b c d : Nat}

/-- The bounds of a region that starts at `n` along the axis, and otherwise where it did. -/
def startingAt (x1 y1 x2 y2 : Number) (axis : Axis) (n : Number) : List Bound :=
  match axis with
  | .column => [.number n, .number y1, .number x2, .number y2]
  | .row => [.number x1, .number n, .number x2, .number y2]

def Reversed (axis : Axis) (bounds : List Bound) : Prop :=
  ∃ i j, ofBounds bounds = .error (.index (.reversedRegion axis i j))

/-- Columns are compared first, and rows only if the columns are in order. -/
theorem ofBounds_eq_error_iff (hx1 : x1.IsIndex a) (hy1 : y1.IsIndex b) (hx2 : x2.IsIndex c)
    (hy2 : y2.IsIndex d) {fault : RegionFault} :
    ofBounds [.number x1, .number y1, .number x2, .number y2] = .error fault ↔
      (c < a ∧ fault = .index (.reversedRegion .column a c)) ∨
      (a ≤ c ∧ d < b ∧ fault = .index (.reversedRegion .row b d)) := by
  rw [ofBounds_numbers hx1 hy1 hx2 hy2, ofPositions]
  by_cases hx : a ≤ c
  · by_cases hy : b ≤ d
    · rw [dif_pos hx, dif_pos hy]
      exact iff_of_false (by simp [Except.mapError]) (by omega)
    · rw [dif_pos hx, dif_neg hy]
      simp [Except.mapError, hx, Nat.not_le.1 hy, eq_comm]
  · rw [dif_neg hx]
    simp [Except.mapError, hx, Nat.not_le.1 hx, eq_comm]

theorem reversed_column_iff (hx1 : x1.IsIndex a) (hy1 : y1.IsIndex b) (hx2 : x2.IsIndex c)
    (hy2 : y2.IsIndex d) :
    Reversed .column [.number x1, .number y1, .number x2, .number y2] ↔ c < a := by
  simp only [Reversed, ofBounds_eq_error_iff hx1 hy1 hx2 hy2]
  constructor
  · rintro ⟨i, j, ⟨h, -⟩ | ⟨-, -, h⟩⟩
    · exact h
    · cases h
  · exact fun h => ⟨a, c, .inl ⟨h, rfl⟩⟩

theorem reversed_row_iff (hx1 : x1.IsIndex a) (hy1 : y1.IsIndex b) (hx2 : x2.IsIndex c)
    (hy2 : y2.IsIndex d) (hx : a ≤ c) :
    Reversed .row [.number x1, .number y1, .number x2, .number y2] ↔ d < b := by
  simp only [Reversed, ofBounds_eq_error_iff hx1 hy1 hx2 hy2]
  constructor
  · rintro ⟨i, j, ⟨-, h⟩ | ⟨-, h, -⟩⟩
    · cases h
    · exact h
  · exact fun h => ⟨b, d, .inr ⟨hx, h, rfl⟩⟩

theorem tellsLast (hx1 : x1.IsIndex a) (hy1 : y1.IsIndex b) (hx2 : x2.IsIndex c)
    (hy2 : y2.IsIndex d) {axis : Axis} {i j : Nat}
    (h : ofBounds [.number x1, .number y1, .number x2, .number y2] =
      .error (.index (.reversedRegion axis i j))) :
    (IndexFault.reversedRegion axis i j).TellsLast fun n =>
      ¬Reversed axis (startingAt x1 y1 x2 y2 axis n) := by
  obtain ⟨hx, heq⟩ | ⟨hx, hy, heq⟩ := (ofBounds_eq_error_iff hx1 hy1 hx2 hy2).1 h
  · cases heq
    exact ⟨a, c, rfl, rfl, ⟨hx, hx1.2⟩, fun n k hk =>
      (not_congr (reversed_column_iff hk hy1 hx2 hy2)).trans Nat.not_lt⟩
  · cases heq
    exact ⟨b, d, rfl, rfl, ⟨hy, hy1.2⟩, fun n k hk =>
      (not_congr (reversed_row_iff hx1 hk hx2 hy2 hx)).trans Nat.not_lt⟩

/-- Limits are bounds only where no region is refused. -/
theorem tellsBound_iff (hx1 : x1.IsIndex a) (hy1 : y1.IsIndex b) (hx2 : x2.IsIndex c)
    (hy2 : y2.IsIndex d) :
    (∀ axis i j, ofBounds [.number x1, .number y1, .number x2, .number y2] =
        .error (.index (.reversedRegion axis i j)) →
      (IndexFault.reversedRegion axis i j).TellsBound fun n =>
        ¬Reversed axis (startingAt x1 y1 x2 y2 axis n)) ↔ a ≤ c ∧ b ≤ d := by
  constructor
  · intro hbound
    have hnone : ∀ axis i j, ofBounds [.number x1, .number y1, .number x2, .number y2] ≠
        .error (.index (.reversedRegion axis i j)) := fun axis i j h =>
      (tellsLast hx1 hy1 hx2 hy2 h).not_tellsBound (hbound axis i j h)
    have hx : a ≤ c := Nat.le_of_not_lt fun hlt =>
      hnone _ _ _ ((ofBounds_eq_error_iff hx1 hy1 hx2 hy2).2 (.inl ⟨hlt, rfl⟩))
    have hy : b ≤ d := Nat.le_of_not_lt fun hlt =>
      hnone _ _ _ ((ofBounds_eq_error_iff hx1 hy1 hx2 hy2).2 (.inr ⟨hx, hlt, rfl⟩))
    exact ⟨hx, hy⟩
  · rintro ⟨hx, hy⟩ axis i j h
    obtain ⟨hlt, -⟩ | ⟨-, hlt, -⟩ := (ofBounds_eq_error_iff hx1 hy1 hx2 hy2).1 h
    · exact absurd hx (Nat.not_le_of_lt hlt)
    · exact absurd hy (Nat.not_le_of_lt hlt)

/-- **The limit of a reversed span or region is the last start that passes**, and so it is a bound
that the starts stay below only where nothing is refused. Between indexes nothing else is refused,
and of a region that is reversed along both axes the columns are told. -/
theorem limit_is_last_start (hx1 : x1.IsIndex a) (hy1 : y1.IsIndex b) (hx2 : x2.IsIndex c)
    (hy2 : y2.IsIndex d) :
    let bounds : List Bound := [.number x1, .number y1, .number x2, .number y2]
    let spanPasses (n : Number) := ¬Span.Reversed n x2
    let passes (axis : Axis) (n : Number) := ¬Reversed axis (startingAt x1 y1 x2 y2 axis n)
    (∀ fault, Span.ofNumbers x1 x2 = .error fault →
      fault = .reversedSpan a c ∧ fault.TellsLast spanPasses) ∧
    ((∀ fault, Span.ofNumbers x1 x2 = .error fault → fault.TellsBound spanPasses) ↔ a ≤ c) ∧
    (∀ fault, ofBounds bounds = .error fault ↔
      (c < a ∧ fault = .index (.reversedRegion .column a c)) ∨
      (a ≤ c ∧ d < b ∧ fault = .index (.reversedRegion .row b d))) ∧
    (∀ axis i j, ofBounds bounds = .error (.index (.reversedRegion axis i j)) →
      (IndexFault.reversedRegion axis i j).TellsLast (passes axis)) ∧
    ((∀ axis i j, ofBounds bounds = .error (.index (.reversedRegion axis i j)) →
      (IndexFault.reversedRegion axis i j).TellsBound (passes axis)) ↔ a ≤ c ∧ b ≤ d) := by
  intro bounds spanPasses passes
  refine ⟨fun fault h => ⟨?_, Span.tellsLast hx1 hx2 h⟩, Span.tellsBound_iff hx1 hx2,
    fun fault => ofBounds_eq_error_iff hx1 hy1 hx2 hy2,
    fun axis i j h => tellsLast hx1 hy1 hx2 hy2 h, tellsBound_iff hx1 hy1 hx2 hy2⟩
  exact ((Span.ofNumbers_eq_error_iff hx1 hx2).1 h).2

/-- A region from column 2 and row 5 to column 1 and row 3: its columns are told, and once they are
in order its rows. -/
theorem columns_told_before_rows :
    let bounds (x1 y1 x2 y2 : Nat) : List Bound :=
      [.number (.ofNat x1), .number (.ofNat y1), .number (.ofNat x2), .number (.ofNat y2)]
    ofBounds (bounds 2 5 1 3) = .error (.index (.reversedRegion .column 2 1)) ∧
      ((IndexFault.reversedRegion .column 2 1).TellsLast fun n => ¬Reversed .column
        [.number n, .number (.ofNat 5), .number (.ofNat 1), .number (.ofNat 3)]) ∧
    ofBounds (bounds 1 5 1 3) = .error (.index (.reversedRegion .row 5 3)) ∧
      ((IndexFault.reversedRegion .row 5 3).TellsLast fun n => ¬Reversed .row
        [.number (.ofNat 1), .number n, .number (.ofNat 1), .number (.ofNat 3)]) ∧
    Span.ofNumbers (.ofNat 2) (.ofNat 1) = .error (.reversedSpan 2 1) ∧
      (IndexFault.reversedSpan 2 1).TellsLast fun n => ¬Span.Reversed n (.ofNat 1) := by
  have hindex : ∀ i : Nat, i < 6 → (Number.ofNat i).IsIndex i := fun i hi =>
    Number.isIndex_ofNat (Nat.lt_trans hi (by decide))
  have h1 := hindex 1 (by decide)
  have h2 := hindex 2 (by decide)
  have h3 := hindex 3 (by decide)
  have h5 := hindex 5 (by decide)
  obtain ⟨hspan, -, hboth, hcolumn, -⟩ := limit_is_last_start h2 h5 h1 h3
  obtain ⟨-, -, hrows, hrow, -⟩ := limit_is_last_start h1 h5 h1 h3
  have hx := (hboth _).2 (.inl ⟨by decide, rfl⟩)
  have hy := (hrows _).2 (.inr ⟨by decide, by decide, rfl⟩)
  have hstart := Span.ofNumbers_of_lt h2 h1 (by decide)
  exact ⟨hx, hcolumn _ _ _ hx, hy, hrow _ _ _ hy, hstart, (hspan _ hstart).2⟩

/-- Each of the three checks lets the start pass that is the limit, so that no limit is a bound:
a span from 3 to 2, and regions that end one column or one row before they start. -/
theorem start_at_limit_passes :
    let index := Number.ofNat
    let bounds (x1 y1 x2 y2 : Number) : List Bound :=
      [.number x1, .number y1, .number x2, .number y2]
    (Span.ofNumbers (index 3) (index 2) = .error (.reversedSpan 3 2) ∧
      (∃ s, Span.ofNumbers (index 2) (index 2) = .ok s) ∧
      ¬(IndexFault.reversedSpan 3 2).TellsBound fun n => ¬Span.Reversed n (index 2)) ∧
    (ofBounds (bounds (index 2) (index 0) (index 1) (index 0)) =
        .error (.index (.reversedRegion .column 2 1)) ∧
      (∃ r, ofBounds (bounds (index 1) (index 0) (index 1) (index 0)) = .ok r) ∧
      ¬(IndexFault.reversedRegion .column 2 1).TellsBound fun n =>
        ¬Reversed .column (bounds n (index 0) (index 1) (index 0))) ∧
    ofBounds (bounds (index 0) (index 2) (index 1) (index 1)) =
        .error (.index (.reversedRegion .row 2 1)) ∧
      (∃ r, ofBounds (bounds (index 0) (index 1) (index 1) (index 1)) = .ok r) ∧
      ¬(IndexFault.reversedRegion .row 2 1).TellsBound fun n =>
        ¬Reversed .row (bounds (index 0) n (index 1) (index 1)) := by
  intro index bounds
  have hindex : ∀ i : Nat, i < 4 → (index i).IsIndex i := fun i hi =>
    Number.isIndex_ofNat (Nat.lt_trans hi (by decide))
  have h0 := hindex 0 (by decide)
  have h1 := hindex 1 (by decide)
  have h2 := hindex 2 (by decide)
  have h3 := hindex 3 (by decide)
  have hspan : Span.ofNumbers (index 3) (index 2) = .error (.reversedSpan 3 2) := by decide
  have hcolumn : ofBounds (bounds (index 2) (index 0) (index 1) (index 0)) =
      .error (.index (.reversedRegion .column 2 1)) := by decide
  have hrow : ofBounds (bounds (index 0) (index 2) (index 1) (index 1)) =
      .error (.index (.reversedRegion .row 2 1)) := by decide
  exact ⟨⟨hspan, ⟨⟨2, 2, by decide⟩, by decide⟩, (Span.tellsLast h3 h2 hspan).not_tellsBound⟩,
    ⟨hcolumn, ⟨⟨⟨1, 0⟩, ⟨1, 0⟩, by decide, by decide⟩, by decide⟩,
      (tellsLast h2 h0 h1 h0 hcolumn).not_tellsBound⟩,
    hrow, ⟨⟨⟨0, 1⟩, ⟨1, 1⟩, by decide, by decide⟩, by decide⟩,
      (tellsLast h0 h2 h1 h1 hrow).not_tellsBound⟩

end Region

end ElasticGrid
