/-
  ClusterProbe.Pki.Curve — elliptic curves of signing keys.

  A point is a pair of coordinates with y² = x³ − 3x + b over a prime field, or the point
  at infinity. Adding points makes them a group; a private key is a number, its public
  key the multiple of the curve's base point by that number.
-/

import ClusterProbe.Pki.Bytes
import ClusterProbe.Pki.Residue

namespace ClusterProbe.Pki

structure Curve where
  /-- The prime that coordinates are reduced by. -/
  prime : Nat
  /-- How many multiples of the base point there are. -/
  order : Nat
  baseX : Nat
  baseY : Nat
  /-- Bytes of a coordinate. -/
  size : Nat
  deriving DecidableEq, Repr

namespace Curve

def p256 : Curve where
  prime := 0xFFFFFFFF00000001000000000000000000000000FFFFFFFFFFFFFFFFFFFFFFFF
  order := 0xFFFFFFFF00000000FFFFFFFFFFFFFFFFBCE6FAADA7179E84F3B9CAC2FC632551
  baseX := 0x6B17D1F2E12C4247F8BCE6E563A440F277037D812DEB33A0F4A13945D898C296
  baseY := 0x4FE342E2FE1A7F9B8EE7EB4A7C0F9E162BCE33576B315ECECBB6406837BF51F5
  size := 32

def p384 : Curve where
  prime := 0xFFFFFFFFFFFFFFFFFFFFFFFFFFFFFFFFFFFFFFFFFFFFFFFFFFFFFFFFFFFFFFFEFFFFFFFF0000000000000000FFFFFFFF
  order := 0xFFFFFFFFFFFFFFFFFFFFFFFFFFFFFFFFFFFFFFFFFFFFFFFFC7634D81F4372DDF581A0DB248B0A77AECEC196ACCC52973
  baseX := 0xAA87CA22BE8B05378EB1C71EF320AD746E1D3B628BA79B9859F741E082542A385502F25DBF55296C3A545E3872760AB7
  baseY := 0x3617DE4A96262C6F5D9E98BF9292DC29F8F41DBD289A147CE9DA3113B5F0B8C00A60B1CE1D7E819D7A431D7C90EA0E5F
  size := 48

/-- A point, or `none` for the one at infinity. -/
abbrev Point := Option (Nat × Nat)

def base (c : Curve) : Point := some (c.baseX, c.baseY)

/-! ## The field -/

def sub (c : Curve) (a b : Nat) : Nat := Residue.sub c.prime a b

def mul (c : Curve) (a b : Nat) : Nat := a * b % c.prime

def inverse (c : Curve) (a : Nat) : Nat := Residue.inverse c.prime a

/-! ## The group -/

/-- The third point of a line of this slope through two points, mirrored. -/
def chord (c : Curve) (slope x y x' : Nat) : Point :=
  let z := c.sub (c.sub (c.mul slope slope) x) x'
  some (z, c.sub (c.mul slope (c.sub x z)) y)

def add (c : Curve) : Point → Point → Point
  | none, q => q
  | p, none => p
  | some (x, y), some (x', y') =>
    if x ≠ x' then c.chord (c.mul (c.sub y' y) (c.inverse (c.sub x' x))) x y x'
    else if y = y' ∧ y ≠ 0 then c.chord (c.mul (3 * c.sub (c.mul x x) 1) (c.inverse (2 * y))) x y x'
    else none

/-- The multiple of a point by the last so many bits of a number. -/
def multiply (c : Curve) (n : Nat) (p : Point) : Nat → Point
  | 0 => none
  | k + 1 =>
    let half := multiply c (n / 2) p k
    let double := c.add half half
    if n % 2 = 0 then double else c.add double p

/-! ## Keys -/

/-- The bytes of a point that is not at infinity: both coordinates. -/
def pointBytes? (c : Curve) (p : Point) : Option (List UInt8) :=
  p.map fun (x, y) => 4 :: Bytes.ofNat c.size x ++ Bytes.ofNat c.size y

/-- The public key of a private one, which is a number from one to below the order. -/
def publicKey? (c : Curve) (secret : List UInt8) : Option (List UInt8) :=
  let n := Bytes.toNat secret
  if secret.length ≠ c.size ∨ n = 0 ∨ c.order ≤ n then none
  else c.pointBytes? (c.multiply n c.base (8 * c.size))

end Curve

end ClusterProbe.Pki
