/-!
# Numbers

A number is what a 64-bit binary float stands for: a rational value, one of the
two infinities, the negative zero, or no number at all. Zero has two forms that
count as the same; `nan` is not even the same as itself. An index is a whole
number that is small enough to be counted up to in steps of one.
-/

namespace ElasticGrid

inductive Number where
  | nan
  | infinity (negative : Bool)
  | negativeZero
  | finite (value : Rat)
  deriving DecidableEq, Repr

namespace Number

def ofNat (n : Nat) : Number := finite n

def ofInt (n : Int) : Number := finite n

/-- The unwritten leading bit of a significand, two to the power of 52. -/
def leadingBit : Nat := 0x10000000000000

/-- The number with the given sign, biased exponent and fraction. -/
def ofFields (negative : Bool) (exponent fraction : Nat) : Number :=
  if exponent = 2047 then
    if fraction = 0 then infinity negative else nan
  else if exponent = 0 ∧ fraction = 0 ∧ negative then
    negativeZero
  else
    let size : Rat :=
      if exponent = 0 then fraction * 2 ^ (-1074 : Int)
      else (leadingBit + fraction : Nat) * 2 ^ ((exponent : Int) - 1075)
    finite (if negative then -size else size)

/-- Reads the layout of a 64-bit binary float. -/
def ofBits (bits : UInt64) : Number :=
  let n := bits.toNat
  ofFields (n / (leadingBit * 2048) == 1) (n / leadingBit % 2048) (n % leadingBit)

/-- The rational value, if there is one; both zeros have the value zero. -/
def value? : Number → Option Rat
  | negativeZero => some 0
  | finite v => some v
  | _ => none

/-- Equality of numbers: the two zeros are equal and `nan` equals nothing. -/
def same : Number → Number → Bool
  | nan, _ => false
  | infinity a, b => b == infinity a
  | a, b => a.value? == b.value?

/-- The whole number it stands for, if it stands for one. -/
def toInt? (n : Number) : Option Int :=
  match n.value? with
  | some v => if v.den = 1 then some v.num else none
  | none => none

/-- The largest index: above it not every whole number is a number. -/
def maxIndex : Nat := 2 * leadingBit - 1

/-- The index it stands for, if it stands for one. -/
def toIndex? (n : Number) : Option Nat :=
  match n.toInt? with
  | some i => if 0 ≤ i ∧ i ≤ maxIndex then some i.toNat else none
  | none => none

@[simp] theorem toInt?_ofNat (n : Nat) : (ofNat n).toInt? = some n := by
  simp [ofNat, toInt?, value?]

theorem toIndex?_ofNat {n : Nat} (h : n ≤ maxIndex) : (ofNat n).toIndex? = some n := by
  simp [toIndex?]; omega

end Number

end ElasticGrid
