/-
  ClusterProbe.Double — 64-bit floating point numbers that are not negative, in exact
  arithmetic.

  A double is `mantissa · 2 ^ exponent` with a mantissa of 53 bits, or of fewer at the
  least exponent. Each operation takes the exact result, a fraction of naturals, to the
  double next to it, an exact half to the even mantissa (`nearest`). What is too large
  for 64 bits keeps its value and is told by `isInfinite`.
-/

namespace ClusterProbe

structure Double where
  mantissa : Nat
  exponent : Int
  deriving DecidableEq, Repr

namespace Double

/-- `n · base ^ e` as numerator and denominator. -/
def scaled (n base : Nat) (e : Int) : Nat × Nat :=
  if 0 ≤ e then (n * Nat.pow base e.toNat, 1) else (n, Nat.pow base (-e).toNat)

/-- The nearest whole number to a fraction, a half going to the even one. -/
def roundHalfEven (num den : Nat) : Nat :=
  let q := num / den
  let r := 2 * (num % den)
  if r < den ∨ (r = den ∧ q % 2 = 0) then q else q + 1

/-- The least exponent of a double. -/
def leastExponent : Int := -1074

/-- The exponent that leaves a mantissa of 53 bits, if doubles go down that far. -/
def exponentOf (num den : Nat) : Int :=
  let guess : Int := (Nat.log2 num : Int) - Nat.log2 den - 52
  let (a, b) := scaled num 2 (-guess)
  max leastExponent (if a / (b * den) < 4503599627370496 then guess - 1 else guess)

def zero : Double := ⟨0, leastExponent⟩

def nearest (num den : Nat) : Double :=
  if num = 0 then zero else
  let e := exponentOf num den
  let (a, b) := scaled num 2 (-e)
  let m := roundHalfEven a (b * den)
  if m = 9007199254740992 then ⟨4503599627370496, e + 1⟩ else ⟨m, e⟩

def ofNat (n : Nat) : Double := nearest n 1

/-- The value as numerator and denominator. -/
def fraction (v : Double) : Nat × Nat := scaled v.mantissa 2 v.exponent

def mul (v w : Double) : Double :=
  let (a, b) := scaled (v.mantissa * w.mantissa) 2 (v.exponent + w.exponent)
  nearest a b

/-- Division by a double that is not zero. -/
def div (v w : Double) : Double :=
  let (a, b) := scaled v.mantissa 2 (v.exponent - w.exponent)
  nearest a (b * w.mantissa)

/-- The value has no place in 64 bits. -/
def isInfinite (v : Double) : Bool := 971 < v.exponent

def isZero (v : Double) : Bool := v.mantissa == 0

/-- The double nearest to a power of ten. -/
def powerOfTen (n : Nat) : Double := ofNat (Nat.pow 10 n)

/-- The largest power of ten among the doubles. -/
def largestPower : Nat := 308

/-- Moves the point of a double by multiplying with, or dividing by, powers of ten,
each a double; nothing if that is too large. A double of integer size divided by the
largest power twice is zero. -/
def shift? (v : Double) (places : Int) : Option Double :=
  if 0 ≤ places then
    if v.isZero then some v
    else if largestPower < places.toNat then none
    else
      let w := v.mul (powerOfTen places.toNat)
      if w.isInfinite then none else some w
  else
    let n := (-places).toNat
    if n ≤ largestPower then some (v.div (powerOfTen n))
    else if n ≤ 2 * largestPower then
      some ((v.div (powerOfTen largestPower)).div (powerOfTen (n - largestPower)))
    else some zero

end Double

end ClusterProbe
