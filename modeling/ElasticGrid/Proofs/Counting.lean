import ElasticGrid.Proofs.Acceptance
import Mathlib.Algebra.Order.Group.Abs
import Mathlib.Algebra.Order.Ring.Rat
import Mathlib.Data.Nat.Cast.Order.Ring

/-!
# Counting in floats

A float that is counted up by one becomes a float that is nearest to the sum. As long as the sum is
below two to the power of 53 it is a float itself, so nothing is rounded and no index is passed over
or met twice: counting from an index to below another one ends, and goes through the indexes between
them (`CountsUp.forall₂`, `exists_countsUp`).
-/

namespace ElasticGrid

namespace Number

def IsFloat (n : Number) : Prop := ∃ bits, ofBits bits = n

/-- A float that is as near to the value as any other. -/
def Nearest (v : Rat) (n : Number) : Prop :=
  n.IsFloat ∧ ∃ w, n.value? = some w ∧
    ∀ m u, IsFloat m → m.value? = some u → |w - v| ≤ |u - v|

theorem ofBits_ofNat {exponent fraction : Nat} (he : exponent < 2048) (hf : fraction < leadingBit) :
    ofBits (.ofNat (exponent * leadingBit + fraction)) = ofFields false exponent fraction := by
  have hbit : leadingBit = 4503599627370496 := rfl
  rw [hbit] at hf
  have hlt : exponent * leadingBit + fraction < 2 ^ 64 := by rw [hbit]; omega
  have hsign : (exponent * leadingBit + fraction) / (leadingBit * 2048) = 0 := by rw [hbit]; omega
  have hexponent : (exponent * leadingBit + fraction) / leadingBit % 2048 = exponent := by
    rw [hbit]; omega
  have hfraction : (exponent * leadingBit + fraction) % leadingBit = fraction := by rw [hbit]; omega
  rw [ofBits, UInt64.toNat_ofNat', Nat.mod_eq_of_lt hlt]
  simp only [hsign, hexponent, hfraction]
  rfl

theorem isFloat_ofNat {i : Nat} (hi : i < 2 ^ 53) : (ofNat i).IsFloat := by
  rcases Nat.eq_zero_or_pos i with rfl | hpos
  · exact ⟨0, by decide +kernel⟩
  have hlog : i.log2 ≤ 52 := by
    have := (Nat.log2_lt (by omega)).2 hi
    omega
  have hlow : leadingBit ≤ i * 2 ^ (52 - i.log2) := by
    calc leadingBit = 2 ^ i.log2 * 2 ^ (52 - i.log2) := by
          rw [← Nat.pow_add, Nat.add_sub_cancel' hlog]; rfl
      _ ≤ i * 2 ^ (52 - i.log2) := Nat.mul_le_mul_right _ (Nat.log2_self_le (by omega))
  have hhigh : i * 2 ^ (52 - i.log2) < 2 * leadingBit := by
    calc i * 2 ^ (52 - i.log2) < 2 ^ (i.log2 + 1) * 2 ^ (52 - i.log2) :=
          Nat.mul_lt_mul_of_pos_right Nat.lt_log2_self (Nat.two_pow_pos _)
      _ = 2 * leadingBit := by
          rw [← Nat.pow_add, show i.log2 + 1 + (52 - i.log2) = 53 by omega]; rfl
  refine ⟨.ofNat ((i.log2 + 1023) * leadingBit + (i * 2 ^ (52 - i.log2) - leadingBit)), ?_⟩
  rw [ofBits_ofNat (by omega) (by omega), ofFields, if_neg (by omega), if_neg (by omega), ofNat]
  have hvalue : (i * 2 ^ (52 - i.log2) : Nat) * (2 : Rat) ^ ((i.log2 + 1023 : Nat) - 1075 : Int) =
      i := by
    have hexponent : ((i.log2 + 1023 : Nat) - 1075 : Int) = -(52 - i.log2 : Nat) := by omega
    have hpow : (2 : Rat) ^ (52 - i.log2) ≠ 0 := pow_ne_zero _ (by decide)
    rw [hexponent, zpow_neg, zpow_natCast, Nat.cast_mul, Nat.cast_pow, Nat.cast_ofNat]
    exact mul_inv_cancel_right₀ hpow _
  simp only [if_neg (show ¬i.log2 + 1023 = 0 by omega), Nat.add_sub_cancel' hlow, hvalue]
  rfl

/-- A value that a float has is not rounded. -/
theorem Nearest.value?_eq {n m : Number} {v : Rat} (hn : n.Nearest v) (hm : m.IsFloat)
    (hv : m.value? = some v) : n.value? = some v := by
  obtain ⟨-, w, hw, hnearest⟩ := hn
  have hdistance := hnearest m v hm hv
  rw [sub_self, abs_zero, abs_nonpos_iff, sub_eq_zero] at hdistance
  rw [hw, hdistance]

theorem nearest_ofNat {i : Nat} (hi : i < 2 ^ 53) : (ofNat i).Nearest i := by
  refine ⟨isFloat_ofNat hi, i, rfl, fun m u _ _ => ?_⟩
  rw [sub_self, abs_zero]
  exact abs_nonneg _

theorem Nearest.isIndex {n : Number} {i : Nat} (hn : n.Nearest i) (hi : i < 2 ^ 53) : n.IsIndex i :=
  ⟨same_ofNat_iff.2 (hn.value?_eq (isFloat_ofNat hi) rfl), hi⟩

/-! ## Counting -/

def Below (n m : Number) : Prop := ∃ v w, n.value? = some v ∧ m.value? = some w ∧ v < w

theorem IsIndex.below_iff {n m : Number} {i j : Nat} (hn : n.IsIndex i) (hm : m.IsIndex j) :
    n.Below m ↔ i < j := by
  have hi := same_ofNat_iff.1 hn.1
  have hj := same_ofNat_iff.1 hm.1
  constructor
  · rintro ⟨v, w, hv, hw, hlt⟩
    rw [hi] at hv
    rw [hj] at hw
    cases hv
    cases hw
    exact Nat.cast_lt.1 hlt
  · exact fun h => ⟨i, j, hi, hj, Nat.cast_lt.2 h⟩

/-- The numbers that are gone through from one number to below another, always to a float that is
nearest to one more. -/
inductive CountsUp (stop : Number) : Number → List Number → Prop where
  | done {n : Number} : ¬n.Below stop → CountsUp stop n []
  | step {n next : Number} {v : Rat} {rest : List Number} : n.Below stop → n.value? = some v →
      next.Nearest (v + 1) → CountsUp stop next rest → CountsUp stop n (n :: rest)

variable {stop n : Number} {i j : Nat}

/-- Counting goes through the indexes, each in one of its forms. -/
theorem CountsUp.forall₂ {l : List Number} (h : CountsUp stop n l) (hn : n.IsIndex i)
    (hstop : stop.IsIndex j) : List.Forall₂ IsIndex l (List.range' i (j - i)) := by
  induction h generalizing i with
  | done hle =>
    rw [hn.below_iff hstop] at hle
    rw [Nat.sub_eq_zero_of_le (Nat.le_of_not_lt hle)]
    exact .nil
  | step hlt hv hnext _ ih =>
    rw [hn.below_iff hstop] at hlt
    obtain rfl := Option.some.inj ((same_ofNat_iff.1 hn.1).symm.trans hv)
    have hsucc := hstop.2
    rw [← Nat.cast_add_one] at hnext
    rw [show j - i = j - (i + 1) + 1 by omega, List.range'_succ]
    exact .cons hn (ih (hnext.isIndex (by omega)))

theorem exists_countsUp (hn : n.IsIndex i) (hstop : stop.IsIndex j) : ∃ l, CountsUp stop n l := by
  induction hcount : j - i generalizing n i with
  | zero => exact ⟨[], .done (by rw [hn.below_iff hstop]; omega)⟩
  | succ count ih =>
    have hsucc : i + 1 < 2 ^ 53 := by have := hstop.2; omega
    obtain ⟨l, hl⟩ := ih (isIndex_ofNat hsucc) (by omega)
    have hnext := nearest_ofNat hsucc
    rw [Nat.cast_add_one] at hnext
    exact ⟨n :: l, .step ((hn.below_iff hstop).2 (by omega)) (same_ofNat_iff.1 hn.1) hnext hl⟩

end Number
end ElasticGrid
