/-
  ClusterProbe.Pki.Residue — arithmetic modulo a number.
-/

namespace ClusterProbe.Pki.Residue

def sub (m a b : Nat) : Nat := (a + m - b % m) % m

/-- A power, whose exponent has at most so many bits. -/
def powerOf (m a e : Nat) : Nat → Nat
  | 0 => 1
  | k + 1 =>
    let half := powerOf m a (e / 2) k
    let square := half * half % m
    if e % 2 = 0 then square else square * a % m

def power (m a e : Nat) : Nat := powerOf m a e (e.log2 + 1)

/-- What times `a` makes one, if the modulus is a prime that does not divide `a`. -/
def inverse (m a : Nat) : Nat := power m a (m - 2)

end ClusterProbe.Pki.Residue
