/-
  ClusterProbe.Pki.PrivateKey — private keys of clients, and the public keys they belong to.

  A key is for RSA, for one of two elliptic curves, or for Edwards signatures. It is
  written on its own, for RSA and curves, or wrapped with the name of its algorithm. Its
  parts have to fit together, as far as they can be checked against each other. The public
  key is told as certificates write it, without its tag.
-/

import ClusterProbe.Pki.Curve
import ClusterProbe.Pki.Der
import ClusterProbe.Pki.Edwards
import ClusterProbe.Pki.Section

namespace ClusterProbe.Pki.PrivateKey

abbrev Reading := Der Unit

def value (tag : UInt8) : Reading (List UInt8) := Der.value () tag

def within {α : Type} (tag : UInt8) (read : Reading α) : Reading α := Der.within () () tag read

def whole {α : Type} (read : Reading α) (bs : List UInt8) : Option α := (Der.whole () read bs).toOption

def ofOption {α : Type} : Option α → Reading α
  | some a => pure a
  | none => throw ()

def natural : Reading Nat := Der.natural ()

/-- A number that has to be this one. -/
def version (n : Nat) : Reading Unit := do if (← natural) ≠ n then throw ()

/-! ## Algorithms

An algorithm is named by a number, perhaps with a parameter. -/

def rsa : List UInt8 := [0x06, 0x09, 0x2A, 0x86, 0x48, 0x86, 0xF7, 0x0D, 0x01, 0x01, 0x01, 0x05, 0x00]

def edwards : List UInt8 := [0x06, 0x03, 0x2B, 0x65, 0x70]

/-- The name of a curve. -/
def curveName (c : Curve) : List UInt8 :=
  if c = .p256 then [0x06, 0x08, 0x2A, 0x86, 0x48, 0xCE, 0x3D, 0x03, 0x01, 0x07]
  else [0x06, 0x05, 0x2B, 0x81, 0x04, 0x00, 0x22]

/-- The algorithm of keys of a curve. -/
def onCurve (c : Curve) : List UInt8 := [0x06, 0x07, 0x2A, 0x86, 0x48, 0xCE, 0x3D, 0x02, 0x01] ++ curveName c

/-- A public key of an algorithm. -/
def publicOf (algorithm key : List UInt8) : List UInt8 :=
  Der.wrap Der.sequence algorithm ++ Der.wrap Der.bitString (0 :: key)

/-! ## RSA -/

structure RsaParts where
  modulus : Nat
  exponent : Nat
  secret : Nat
  first : Nat
  second : Nat
  firstSecret : Nat
  secondSecret : Nat
  coefficient : Nat
  deriving DecidableEq, Repr

namespace RsaParts

def bits (n : Nat) : Nat := if n = 0 then 0 else n.log2 + 1

/-- Half the bits of the modulus, rounded up. -/
def half (k : RsaParts) : Nat := (bits k.modulus + 1) / 2

/-- A factor of the modulus with its part of the secret. -/
def isFactor (k : RsaParts) (factor secret : Nat) : Bool :=
  bits factor == k.half && factor % 2 == 1 && secret % 2 == 1 && secret < factor

/-- The coefficient is what the second factor has to be multiplied by to leave one, if the
first factor is larger. Otherwise the coefficient does not count, but there has to be one. -/
def isInvertible (k : RsaParts) : Bool :=
  if k.second < k.first then k.coefficient < k.first && k.coefficient * k.second % k.first == 1
  else Residue.power k.second k.first (k.second - 1) == 1

/-- Sizes, and what the parts have to do with each other. -/
def isSound (k : RsaParts) : Bool :=
  k.half % 512 == 0 && 1024 ≤ k.half && k.half ≤ 2048 && k.modulus % 2 == 1 &&
    65537 ≤ k.exponent && bits k.exponent ≤ 33 && k.exponent % 2 == 1 &&
    k.isFactor k.first k.firstSecret && k.isFactor k.second k.secondSecret &&
    k.first * k.second % k.modulus == 0 &&
    k.secret % 2 == 1 && k.half < bits k.secret && k.secret < k.modulus && k.isInvertible

def read : Reading RsaParts := within Der.sequence do
  version 0
  return ⟨← natural, ← natural, ← natural, ← natural, ← natural, ← natural, ← natural, ← natural⟩

def publicKey (k : RsaParts) : List UInt8 :=
  publicOf rsa (Der.wrap Der.sequence (Der.wrapNatural k.modulus ++ Der.wrapNatural k.exponent))

end RsaParts

def readRsa : Reading (List UInt8) := do
  let k ← RsaParts.read
  if k.isSound then return k.publicKey else throw ()

/-! ## Curves -/

/-- A key of a curve carries its public half. -/
def readOnCurve (c : Curve) : Reading (List UInt8) := within Der.sequence do
  version 1
  let secret ← value Der.octetString
  if ← Der.sees (Der.member 0) then
    if (← value (Der.member 0)) ≠ curveName c then throw ()
  let point ← within (Der.member 1) (Der.bits ())
  if (← ofOption (c.publicKey? secret)) = point then return publicOf (onCurve c) point else throw ()

/-! ## Wrapped keys -/

/-- The public key that is told with a private one, in one of two ways. -/
def readTold : Reading (List UInt8) := do
  if ← Der.sees (Der.member 1) then within (Der.member 1) (Der.bits ())
  else Der.bitsOf () (Der.bareMember 1)

/-- A key that is wrapped with the name of its algorithm. Attributes may follow, and in
the second version, which has number 1, the public key does. -/
def readWrapped (latest : Nat) (algorithm : List UInt8) : Reading (List UInt8 × Option (List UInt8)) :=
  within Der.sequence do
    let number ← natural
    if (← value Der.sequence) ≠ algorithm || latest < number then throw ()
    let inner ← value Der.octetString
    if ← Der.sees (Der.member 0) then discard (value (Der.member 0))
    if number = 0 then return (inner, none)
    return (inner, some (← readTold))

/-- A key of the first version in its wrapping. -/
def unwrap (algorithm : List UInt8) (read : Reading (List UInt8)) : Reading (List UInt8) := do
  let (inner, _) ← readWrapped 0 algorithm
  ofOption (whole read inner)

def readEdwards : Reading (List UInt8) := do
  let (inner, told) ← readWrapped 1 edwards
  let seed ← ofOption (whole (value Der.octetString) inner)
  if seed.length ≠ 32 then throw ()
  let key := Edwards.publicKey seed
  if told.all (· == key) then return publicOf edwards key else throw ()

/-- The public key that a private one belongs to, if it is a key. -/
def publicKey? (kind : SectionKind) (bs : List UInt8) : Option (List UInt8) :=
  let onCurves (read : Curve → Reading (List UInt8)) :=
    (whole (read .p256) bs).orElse fun _ => whole (read .p384) bs
  match kind with
  | .rsaKey => whole readRsa bs
  | .ecKey => onCurves readOnCurve
  | .privateKey =>
    ((whole (unwrap rsa readRsa) bs).orElse fun _ =>
      onCurves fun c => unwrap (onCurve c) (readOnCurve c)).orElse fun _ => whole readEdwards bs
  | .certificate | .foreign => none

end ClusterProbe.Pki.PrivateKey
