/-
  ClusterProbe.Json.Shortest — the fewest digits that still mean the same double.

  A decimal stands for the double next to it. Of the decimals that stand for one
  double the shortest is written, and of two equally short ones the nearer
  (`shortest`). All is exact arithmetic on naturals.
-/

import ClusterProbe.Double

namespace ClusterProbe.Double

/-- `a · 10 ^ k ≤ b · 2 ^ e`, or strictly less. -/
def below (strict : Bool) (a : Nat) (k : Int) (b : Nat) (e : Int) : Bool :=
  let (x, x') := scaled a 10 k
  let (y, y') := scaled b 2 e
  if strict then x * y' < y * x' else x * y' ≤ y * x'

/-- The decimal `d · 10 ^ k` stands for the double: it lies between the halves of the
gaps to the doubles beside it. -/
def standsFor (v : Double) (d : Nat) (k : Int) : Bool :=
  let odd := v.mantissa % 2 == 1
  let gap := if v.mantissa = 4503599627370496 ∧ leastExponent < v.exponent then 1 else 2
  let low := 4 * v.mantissa - gap
  let high := 4 * v.mantissa + 2
  below odd d k high (v.exponent - 2) && !below (!odd) d k low (v.exponent - 2)

/-- The decimals with last place `10 ^ k` on both sides of the double; the nearer first,
or the even one halfway between. -/
def neighbours (v : Double) (k : Int) : List Nat :=
  let (y, y') := v.fraction
  let (x, x') := scaled 1 10 k
  let d := y * x' / (x * y')
  if below (d % 2 == 0) (2 * d + 1) k (2 * v.mantissa) v.exponent then [d + 1, d] else [d, d + 1]

/-- The number of decimal places before the point; negative for zeros after it. -/
def point (v : Double) : Int :=
  let (y, y') := v.fraction
  if y' ≤ y then (Nat.toDigits 10 (y / y')).length
  else 1 - ((Nat.toDigits 10 ((y' - 1) / y)).length : Int)

/-- Digits and exponent of the shortest decimal that stands for the double; of
seventeen digits one always does. -/
def shortest (v : Double) : Nat × Int :=
  if v.isZero then (0, 0)
  else
    let point := v.point
    let found := (List.range 17).findSome? fun n =>
      let k := point - (n + 1 : Nat)
      ((neighbours v k).find? fun d => d ≠ 0 && standsFor v d k).map (·, k)
    found.getD (0, 0)

end ClusterProbe.Double
