import ElasticGrid.Proofs.Acceptance
import ElasticGrid.Number.Text
import Mathlib.Algebra.Order.Field.Power
import Mathlib.Data.Rat.Floor
import Mathlib.Tactic.Linarith

/-!
# How indexes are written

A number is written with the fewest digits that no other float is nearer to, and for large or small
numbers with an exponent. Nothing of this shows in an index: floats below two to the power of 53 are
no more than one apart, so that an index is the only whole number that rounds to it, and all of its
digits are written out (`Number.IsIndex.text_eq`).
-/

namespace ElasticGrid

namespace Rounding

variable {v w : Rat} {i : Nat}

theorem unit_pos (v : Rat) : (0 : Rat) < 2 ^ unitExponent v := zpow_pos (by norm_num) _

theorem low_bounds (v : Rat) :
    v - 2 ^ unitExponent v / 2 ≤ (ofValue v).low ∧ (ofValue v).low < v := by
  have hunit := unit_pos v
  unfold ofValue
  simp only
  split <;> constructor <;> linarith

theorem contains_self (v : Rat) : (ofValue v).contains v := by
  obtain ⟨-, hlow⟩ := low_bounds v
  have hhigh : v < (ofValue v).high := lt_add_of_pos_right v (half_pos (unit_pos v))
  unfold contains
  split
  · rw [Bool.and_eq_true, decide_eq_true_iff, decide_eq_true_iff]
    exact ⟨hlow.le, hhigh.le⟩
  · rw [Bool.and_eq_true, decide_eq_true_iff, decide_eq_true_iff]
    exact ⟨hlow, hhigh⟩

/-- What rounds to a float is at most half the distance to the next float away. -/
theorem abs_sub_le_of_contains (h : (ofValue v).contains w) :
    |w - v| ≤ 2 ^ unitExponent v / 2 := by
  obtain ⟨hlow, -⟩ := low_bounds v
  have hbounds : (ofValue v).low ≤ w ∧ w ≤ v + 2 ^ unitExponent v / 2 := by
    unfold contains at h
    split at h
    · rwa [Bool.and_eq_true, decide_eq_true_iff, decide_eq_true_iff] at h
    · rw [Bool.and_eq_true, decide_eq_true_iff, decide_eq_true_iff] at h
      exact ⟨h.1.le, h.2.le⟩
  rw [abs_le]
  constructor <;> linarith

theorem binaryExponent_natCast (hpos : 0 < i) : binaryExponent i = i.log2 := by
  have hle : ((2 ^ i.log2 : Nat) : Rat) ≤ i := Nat.cast_le.2 (Nat.log2_self_le (Nat.ne_of_gt hpos))
  have hone : Nat.log2 1 = 0 := by decide
  rw [Nat.cast_pow] at hle
  rw [binaryExponent, Rat.num_natCast, Rat.den_natCast, Int.natAbs_natCast, hone]
  simp only [Nat.cast_zero, Int.sub_zero, zpow_natCast]
  exact if_neg (not_lt.2 hle)

theorem unit_le_one (hpos : 0 < i) (hi : i < 2 ^ 53) : (2 : Rat) ^ unitExponent i ≤ 1 := by
  have hlog := (Nat.log2_lt (Nat.ne_of_gt hpos)).2 hi
  refine zpow_le_one_of_nonpos₀ (by norm_num) ?_
  rw [unitExponent, binaryExponent_natCast hpos]
  omega

/-- Of all whole numbers only the index itself rounds to it. -/
theorem contains_natCast_iff (hpos : 0 < i) (hi : i < 2 ^ 53) (m : Nat) :
    (ofValue i).contains m ↔ m = i := by
  constructor
  · intro h
    have hunit := unit_le_one hpos hi
    obtain ⟨hlow, hhigh⟩ := abs_le.1 (abs_sub_le_of_contains h)
    rcases Nat.lt_trichotomy m i with hlt | rfl | hlt
    · have hsucc : (m : Rat) + 1 ≤ i := by exact_mod_cast hlt
      linarith
    · rfl
    · have hsucc : (i : Rat) + 1 ≤ m := by exact_mod_cast hlt
      linarith
  · rintro rfl
    exact contains_self _

end Rounding

namespace Decimal

variable {d : Decimal} {i : Nat}

/-- The value is the whole number, and the digits are its first ones. -/
def Writes (d : Decimal) (i : Nat) : Prop := ∃ e : Nat, d.exponent = e ∧ d.digits * 10 ^ e = i

theorem toDigits_mul_pow (hi : 0 < i) (e : Nat) :
    Nat.toDigits 10 (i * 10 ^ e) = Nat.toDigits 10 i ++ List.replicate e '0' := by
  induction e with
  | zero => rw [Nat.pow_zero, Nat.mul_one, List.replicate_zero, List.append_nil]
  | succ e ih =>
    have hpos : 0 < i * 10 ^ e := Nat.mul_pos hi (Nat.pow_pos (by decide))
    have hnext := Nat.toDigits_append_toDigits (b := 10) (d := 0) (by decide) hpos (by decide)
    rw [ih, Nat.toDigits_zero, Nat.add_zero] at hnext
    rw [Nat.pow_succ, ← Nat.mul_assoc, Nat.mul_comm _ 10, ← hnext, List.append_assoc,
      List.replicate_succ']

/-- Up to 21 digits a whole number is written without an exponent. -/
theorem Writes.text_eq (h : d.Writes i) (hpos : 0 < i) (hi : i < 10 ^ 21) :
    d.text = toString i := by
  obtain ⟨e, hexponent, rfl⟩ := h
  have hdigits : 0 < d.digits := Nat.pos_of_mul_pos_right hpos
  have hall := toDigits_mul_pow hdigits e
  have hlength := congrArg List.length hall
  have hshort : (Nat.toDigits 10 (d.digits * 10 ^ e)).length ≤ 21 :=
    (Nat.length_toDigits_le_iff (by decide) (by decide)).2 hi
  rw [List.length_append, List.length_replicate] at hlength
  rw [text, hexponent]
  simp only []
  rw [if_pos (by unfold maxWhole; omega), Nat.toString_eq_ofList_toDigits, hall,
    String.ofList_append, zeros]
  congr 3
  omega

theorem Writes.stripZeros (h : d.Writes i) (fuel : Nat) : (stripZeros fuel d).Writes i := by
  induction fuel generalizing d with
  | zero => exact h
  | succ fuel ih =>
    rw [Decimal.stripZeros]
    split
    · next hzero =>
      obtain ⟨e, he, hd⟩ := h
      refine ih ⟨e + 1, by rw [he]; rfl, ?_⟩
      rw [Nat.pow_succ', ← Nat.mul_assoc, Nat.div_mul_cancel (Nat.dvd_of_mod_eq_zero hzero.2), hd]
    · exact h

/-! ## The shortest decimal of an index -/

theorem value_natCast (n e : Nat) : (⟨n, e⟩ : Decimal).value = (n * 10 ^ e : Nat) := by
  rw [value, zpow_natCast]
  push_cast
  rfl

theorem floor_div_pow (i e : Nat) :
    ((i : Rat) / (10 : Rat) ^ (e : Int)).floor.toNat = i / 10 ^ e := by
  have hpow : (10 : Rat) ^ (e : Int) = (10 ^ e : Nat) := by
    rw [zpow_natCast]
    push_cast
    rfl
  have hfloor : ((i : Rat) / (10 ^ e : Nat)).floor = (i : Int) / (10 ^ e : Nat) :=
    Rat.floor_natCast_div_natCast i (10 ^ e)
  rw [hpow, hfloor]
  rfl

/-- Where nothing else rounds to the index, a grid of powers of ten has to meet it. -/
theorem onGrid_natCast {r : Rounding} (honly : ∀ m : Nat, r.contains m ↔ m = i) (e : Nat) :
    onGrid r i e = if 10 ^ e ∣ i then some ⟨i / 10 ^ e, e⟩ else none := by
  have hupper : r.contains (⟨i / 10 ^ e + 1, e⟩ : Decimal).value = false := by
    rw [value_natCast, Bool.eq_false_iff, Ne, honly]
    exact Nat.ne_of_gt (Nat.lt_mul_of_div_lt (Nat.lt_succ_self _) (Nat.pow_pos (by decide)))
  have hlower : r.contains (⟨i / 10 ^ e, e⟩ : Decimal).value = decide (10 ^ e ∣ i) := by
    rw [value_natCast, Bool.eq_iff_iff, honly, decide_eq_true_iff]
    exact (Nat.dvd_iff_div_mul_eq _ _).symm
  unfold onGrid
  simp only [floor_div_pow, hupper, hlower]
  by_cases h : 10 ^ e ∣ i <;> simp [h]

theorem magnitude_natCast (hpos : 0 < i) : magnitude i = digitCount i := by
  have hfloor : (i : Rat).floor = i := Int.mem_toNat?.1 rfl
  rw [magnitude, if_pos (by exact_mod_cast hpos), hfloor, Int.toNat_natCast]

/-- With as many digits as the index has, it is found; what is found with fewer is the index too. -/
theorem exists_found (hpos : 0 < i) (hi : i < 2 ^ 53) :
    ∃ d, ((List.range (digitCount i)).findSome? fun k =>
      onGrid (.ofValue i) i (digitCount i - (k + 1 : Nat))) = some d ∧ d.Writes i := by
  have hcount : 0 < digitCount i := Nat.length_toDigits_pos
  have hgrid : ∀ k < digitCount i, onGrid (.ofValue i) i (digitCount i - (k + 1 : Nat)) =
      if 10 ^ (digitCount i - (k + 1)) ∣ i then
        some ⟨i / 10 ^ (digitCount i - (k + 1)), (digitCount i - (k + 1) : Nat)⟩
      else none := fun k hk => by
    rw [← onGrid_natCast (Rounding.contains_natCast_iff hpos hi), Int.ofNat_sub hk]
  obtain ⟨d, hd⟩ : ∃ d, ((List.range (digitCount i)).findSome? fun k =>
      onGrid (.ofValue i) i (digitCount i - (k + 1 : Nat))) = some d := by
    rw [← Option.isSome_iff_exists, List.findSome?_isSome_iff]
    refine ⟨digitCount i - 1, List.mem_range.2 (Nat.sub_lt hcount Nat.one_pos), ?_⟩
    rw [hgrid _ (by omega), Nat.sub_add_cancel hcount, Nat.sub_self,
      if_pos (by rw [Nat.pow_zero]; exact Nat.one_dvd i)]
    rfl
  obtain ⟨k, hk, hkd⟩ := List.exists_of_findSome?_eq_some hd
  refine ⟨d, hd, ?_⟩
  rw [hgrid k (List.mem_range.1 hk), Option.ite_none_right_eq_some, Option.some_inj] at hkd
  obtain ⟨hdvd, rfl⟩ := hkd
  exact ⟨_, rfl, Nat.div_mul_cancel hdvd⟩

theorem writes_shortest (hpos : 0 < i) (hi : i < 2 ^ 53) : (shortest i).Writes i := by
  have hcount : digitCount i ≤ 17 :=
    (Nat.length_toDigits_le_iff (by decide) (by decide)).2 (Nat.lt_trans hi (by decide))
  obtain ⟨d, hfound, hd⟩ := exists_found hpos hi
  rw [shortest, magnitude_natCast hpos, ← Nat.add_sub_cancel' hcount, List.range_add]
  simp only [List.findSome?_append, hfound, Option.some_or, Option.getD_some]
  exact hd.stripZeros _

end Decimal

/-- **An index is written with its decimal digits**, whichever of the two zeros it is. -/
theorem Number.IsIndex.text_eq {n : Number} {i : Nat} (hn : n.IsIndex i) : n.text = toString i := by
  have hvalue := same_ofNat_iff.1 hn.1
  cases n with
  | nan => cases hvalue
  | infinity negative => cases hvalue
  | negativeZero =>
    have hzero : (0 : Rat) = i := Option.some.inj hvalue
    obtain rfl : 0 = i := by exact_mod_cast hzero
    rfl
  | finite v =>
    obtain rfl : v = i := Option.some.inj hvalue
    rcases Nat.eq_zero_or_pos i with rfl | hpos
    · rfl
    · have hne : (i : Rat) ≠ 0 := by exact_mod_cast Nat.ne_of_gt hpos
      have hge : ¬(i : Rat) < 0 := not_lt.2 (Nat.cast_nonneg i)
      rw [text, if_neg hne, if_neg hge]
      exact (Decimal.writes_shortest hpos hn.2).text_eq hpos (Nat.lt_trans hn.2 (by decide))

end ElasticGrid
