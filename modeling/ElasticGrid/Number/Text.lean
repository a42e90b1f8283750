import ElasticGrid.Number.Shortest

/-!
# How numbers are written

A number is written with its shortest digits: positionally when the decimal point
falls within 21 places after the first digit or within 6 zeros before it, else with
an exponent. Both zeros are written `0`.
-/

namespace ElasticGrid

namespace Decimal

/-- Most digits before the point that are written out. -/
def maxWhole : Int := 21

/-- Most zeros between the point and the first digit that are written out, plus one. -/
def maxLeading : Int := 6

def zeros (n : Nat) : String := String.ofList (List.replicate n '0')

/-- The text of a decimal with at least one digit. -/
def text (d : Decimal) : String :=
  let ds := Nat.toDigits 10 d.digits
  let point : Int := ds.length + d.exponent
  if ds.length ≤ point ∧ point ≤ maxWhole then
    String.ofList ds ++ zeros (point.toNat - ds.length)
  else if 0 < point ∧ point ≤ maxWhole then
    String.ofList (ds.take point.toNat) ++ "." ++ String.ofList (ds.drop point.toNat)
  else if -maxLeading < point ∧ point ≤ 0 then
    "0." ++ zeros (-point).toNat ++ String.ofList ds
  else
    let fraction := if ds.length = 1 then "" else "." ++ String.ofList (ds.drop 1)
    let sign := if point - 1 < 0 then "-" else "+"
    String.ofList (ds.take 1) ++ fraction ++ "e" ++ sign ++ toString (point - 1).natAbs

end Decimal

namespace Number

def text : Number → String
  | nan => "NaN"
  | infinity false => "Infinity"
  | infinity true => "-Infinity"
  | negativeZero => "0"
  | finite v =>
    if v = 0 then "0"
    else if v < 0 then "-" ++ (Decimal.shortest (-v)).text
    else (Decimal.shortest v).text

end Number

end ElasticGrid
