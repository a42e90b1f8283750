import ElasticGrid.Number.Basic

/-!
# The shortest decimal of a number

A 64-bit float stands for all the rationals that round to it. `Rounding` is that
interval; `Decimal.shortest` picks from it the decimal with the fewest digits, of
those the one nearest to the number, and of two that are equally near the one
with an even last digit.

Everything is computed on exact rationals, for a positive value: the sign is no
concern of the digits.
-/

namespace ElasticGrid

/-- The rationals that round to one positive float; the ends belong to it or not together. -/
structure Rounding where
  low : Rat
  high : Rat
  closed : Bool

namespace Rounding

def contains (r : Rounding) (v : Rat) : Bool :=
  if r.closed then r.low ≤ v && v ≤ r.high else r.low < v && v < r.high

/-- The exponent `e` with `2 ^ e ≤ v < 2 ^ (e + 1)`. -/
def binaryExponent (v : Rat) : Int :=
  let e : Int := (v.num.natAbs.log2 : Int) - v.den.log2
  if v < (2 : Rat) ^ e then e - 1 else e

/-- The distance between neighbouring floats at `v` is two to this power. -/
def unitExponent (v : Rat) : Int := max (binaryExponent v - 52) (-1074)

/-- The interval of `v`. It reaches half way to the next float on each side; the
lower neighbour of a power of two is only half as far away as the upper one. -/
def ofValue (v : Rat) : Rounding :=
  let q := unitExponent v
  let unit : Rat := (2 : Rat) ^ q
  let significand := (v / unit).floor
  let below := if significand = Number.leadingBit ∧ -1074 < q then unit / 4 else unit / 2
  ⟨v - below, v + unit / 2, significand % 2 == 0⟩

end Rounding

/-- The value `digits * 10 ^ exponent`. -/
structure Decimal where
  digits : Nat
  exponent : Int
  deriving DecidableEq, Repr

namespace Decimal

def value (d : Decimal) : Rat := d.digits * (10 : Rat) ^ d.exponent

def digitCount (n : Nat) : Nat := (Nat.toDigits 10 n).length

/-- The `p` with `10 ^ (p - 1) ≤ v < 10 ^ p`. -/
def magnitude (v : Rat) : Int :=
  if 1 ≤ v then digitCount v.floor.toNat else 1 - digitCount ((1 / v).ceil.toNat - 1)

/-- The neighbour of `v` among the multiples of `10 ^ exponent` that lies in `r`,
the nearer one if both do. -/
def onGrid (r : Rounding) (v : Rat) (exponent : Int) : Option Decimal :=
  let lower : Decimal := ⟨(v / (10 : Rat) ^ exponent).floor.toNat, exponent⟩
  let upper : Decimal := ⟨lower.digits + 1, exponent⟩
  match r.contains lower.value, r.contains upper.value with
  | false, false => none
  | true, false => some lower
  | false, true => some upper
  | true, true =>
    let down := v - lower.value
    let up := upper.value - v
    if down < up ∨ (down = up ∧ lower.digits % 2 = 0) then some lower else some upper

/-- Moves the zeros that end the digits into the exponent, at most `fuel` of them. -/
def stripZeros : Nat → Decimal → Decimal
  | 0, d => d
  | fuel + 1, d =>
    if d.digits ≠ 0 ∧ d.digits % 10 = 0 then stripZeros fuel ⟨d.digits / 10, d.exponent + 1⟩
    else d

/-- The shortest decimal that rounds to the positive float `v`. Seventeen digits are
enough for every float. -/
def shortest (v : Rat) : Decimal :=
  let r := Rounding.ofValue v
  let p := magnitude v
  let found := (List.range 17).findSome? fun k => onGrid r v (p - (k + 1 : Nat))
  let d := found.getD ⟨(v / (10 : Rat) ^ (p - 17)).floor.toNat, p - 17⟩
  stripZeros (digitCount d.digits) d

end Decimal

end ElasticGrid
