/-
  ClusterProbe.Pki.Bytes — numbers as bytes, the first byte counting most.
-/

namespace ClusterProbe.Pki.Bytes

/-- The last so many bytes of a number. -/
def ofNat : Nat → Nat → List UInt8
  | 0, _ => []
  | k + 1, n => ofNat k (n / 256) ++ [.ofNat (n % 256)]

def toNat (bs : List UInt8) : Nat := bs.foldl (fun n b => 256 * n + b.toNat) 0

/-- The bytes of a number, the first one not zero. As many are enough as the number has bits. -/
def shortest : Nat → Nat → List UInt8
  | 0, _ => []
  | k + 1, n => if n = 0 then [] else shortest k (n / 256) ++ [.ofNat (n % 256)]

end ClusterProbe.Pki.Bytes
