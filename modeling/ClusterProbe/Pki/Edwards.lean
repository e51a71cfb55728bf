/-
  ClusterProbe.Pki.Edwards — keys of Edwards signatures.

  A point is a pair with −x² + y² = 1 + dx²y² over a prime field, told by three numbers,
  the first two of which count as divided by the third. A private key is a seed; its
  digest tells a number, and the public key is the multiple of the base point by it.
-/

import ClusterProbe.Pki.Residue
import ClusterProbe.Pki.Sha512

namespace ClusterProbe.Pki.Edwards

/-- The prime that coordinates are reduced by. -/
def prime : Nat := 0x7FFFFFFFFFFFFFFFFFFFFFFFFFFFFFFFFFFFFFFFFFFFFFFFFFFFFFFFFFFFFFED

/-- The constant of the equation. -/
def constant : Nat := 0x52036CEE2B6FFE738CC740797779E89800700A4D4141D8AB75EB4DCA135978A3

structure Point where
  x : Nat
  y : Nat
  /-- What the others are divided by. -/
  z : Nat
  deriving DecidableEq, Repr

namespace Point

def zero : Point := ⟨0, 1, 1⟩

def base : Point where
  x := 0x216936D3CD6E53FEC0A4E231FDD6DC5C692CC7609525A7B2C9562D608F25D51A
  y := 0x6666666666666666666666666666666666666666666666666666666666666658
  z := 1

/-- The sum of two points, the same or not. -/
def add (p q : Point) : Point :=
  let a := p.z * q.z % prime
  let b := a * a % prime
  let c := p.x * q.x % prime
  let d := p.y * q.y % prime
  let e := constant * (c * d % prime) % prime
  let f := Residue.sub prime b e
  let g := b + e
  let cross := Residue.sub prime ((p.x + p.y) * (q.x + q.y)) (c + d)
  ⟨a * f % prime * cross % prime, a * g % prime * (c + d) % prime, f * g % prime⟩

/-- The multiple of a point by the last so many bits of a number. -/
def multiply (n : Nat) (p : Point) : Nat → Point
  | 0 => zero
  | k + 1 =>
    let half := multiply (n / 2) p k
    let double := half.add half
    if n % 2 = 0 then double else double.add p

/-- The second coordinate, with the last bit of the first one in front; the last byte
counts most. -/
def toBytes (p : Point) : List UInt8 :=
  let i := Residue.inverse prime p.z
  let x := p.x * i % prime
  let y := p.y * i % prime
  (Bytes.ofNat 32 (y + Nat.shiftLeft (x % 2) 255)).reverse

end Point

/-- The number that a seed stands for: a multiple of eight of 255 bits. -/
def number (seed : List UInt8) : Nat :=
  let n := Bytes.toNat ((Sha512.digest seed).take 32).reverse
  let top := Nat.shiftLeft 1 254
  n % top / 8 * 8 + top

def publicKey (seed : List UInt8) : List UInt8 := (Point.multiply (number seed) .base 255).toBytes

end ClusterProbe.Pki.Edwards
