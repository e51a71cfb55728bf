/-
  ClusterProbe.Pki.Certificate — certificates, as far as they have to be well formed.

  Neither signatures nor names nor dates are looked at: only the order of the parts, the
  version, that both places agree on the algorithm of the signature, and the extensions.
  An extension that is known may occur once, and an unknown one must not be critical. The
  version is the third; an authority may also have a certificate of the first one, which
  tells no version and has no extensions.
-/

import ClusterProbe.Pki.Der

namespace ClusterProbe.Pki

inductive CertificateFault where
  | malformed
  | otherVersion
  | otherAlgorithm
  | criticalExtension
  | repeatedExtension
  deriving DecidableEq, Repr

namespace CertificateFault

def other (name : String) : String := "Other(OtherError(" ++ name ++ "))"

def message (f : CertificateFault) : String :=
  "invalid peer certificate: " ++ match f with
    | malformed => "BadEncoding"
    | otherVersion => other "UnsupportedCertVersion"
    | otherAlgorithm => other "SignatureAlgorithmMismatch"
    | criticalExtension => other "UnsupportedCriticalExtension"
    | repeatedExtension => other "ExtensionValueInvalid"

end CertificateFault

/-- What a client needs of a certificate. -/
structure Certificate where
  /-- The public key with its algorithm, as a value without its tag. -/
  publicKey : List UInt8
  deriving DecidableEq, Repr

namespace Certificate

abbrev Reading := Der CertificateFault

def value (tag : UInt8) : Reading (List UInt8) := Der.value .malformed tag

def within {α : Type} (tag : UInt8) (read : Reading α) : Reading α := Der.within .malformed .malformed tag read

/-- The third version has number 2. A version that is not told is another one. -/
def readVersion : Reading Unit :=
  Der.within .otherVersion .otherVersion (Der.member 0) do
    let n ← Der.natural .malformed
    if 256 ≤ n then throw .malformed
    if n ≠ 2 then throw .otherVersion

structure Extension where
  id : List UInt8
  critical : Bool
  content : List UInt8
  deriving DecidableEq, Repr

namespace Extension

def readCritical : Reading Bool := do
  if !(← Der.sees Der.boolean) then return false
  match ← value Der.boolean with
  | [0xFF] => return true
  | [0] => return false
  | _ => throw .malformed

def read : Reading Extension := do
  return ⟨← value Der.identifier, ← readCritical, ← value Der.octetString⟩

/-- The use of the key, other names, basic constraints, constraints on names, revocation
lists and extended uses of the key, by their last number. -/
def known : List UInt8 := [15, 17, 19, 30, 31, 37]

/-- The last number of a known extension. -/
def number? (e : Extension) : Option UInt8 :=
  match e.id with
  | [0x55, 0x1D, n] => if known.contains n then some n else none
  | _ => none

/-- All known extensions but the first of the list hold a sequence. -/
def checkContent (n : UInt8) (e : Extension) : Except CertificateFault Unit :=
  if n = 15 then .ok () else discard (Der.whole .malformed (value Der.sequence) e.content)

/-- Takes one more extension after the known ones before it. -/
def add (seen : List UInt8) (e : Extension) : Except CertificateFault (List UInt8) :=
  match e.number? with
  | none => if e.critical then .error .criticalExtension else .ok seen
  | some n =>
    if seen.contains n then .error .repeatedExtension else (e.checkContent n).map fun _ => n :: seen

/-- Reads extensions one after another, the known ones before them being given. -/
def readAll : Nat → List UInt8 → Reading Unit
  | 0, _ => pure ()
  | n + 1, seen => do
    if ← Der.atEnd then return
    let e ← within Der.sequence read
    let seen ← (add seen e : Except CertificateFault (List UInt8))
    readAll n seen

end Extension

def readExtensions : Reading Unit := do
  if ← Der.atEnd then return
  within (Der.member 3) (within Der.sequence do Extension.readAll (← get).length [])

/-- The part that is signed, under an algorithm. -/
def readSigned (algorithm : List UInt8) : Reading Certificate := do
  readVersion
  let _ ← value Der.integer
  if (← value Der.sequence) ≠ algorithm then throw .otherAlgorithm
  let _issuer ← value Der.sequence
  let _validity ← value Der.sequence
  let _subject ← value Der.sequence
  let publicKey ← value Der.sequence
  readExtensions
  return ⟨publicKey⟩

def read : Reading Certificate := within Der.sequence do
  let signed ← value Der.sequence
  let algorithm ← value Der.sequence
  let _ ← Der.bits .malformed
  (Der.whole .malformed (readSigned algorithm) signed : Except CertificateFault Certificate)

def ofBytes (bs : List UInt8) : Except CertificateFault Certificate := Der.whole .malformed read bs

/-! ## Authorities -/

/-- A certificate of the first version: a number, the algorithm, the issuer, the validity,
the subject and its key; then the algorithm again and the signature. -/
def readFirstVersion : Reading Unit := within Der.sequence do
  within Der.sequence do
    let _ ← value Der.integer
    (List.replicate 5 Der.sequence).forM fun tag => discard (value tag)
  let _ ← value Der.sequence
  discard (value Der.bitString)

/-- What is wrong with a certificate of an authority. -/
def checkAuthority (bs : List UInt8) : Except CertificateFault Unit :=
  match ofBytes bs with
  | .ok _ => .ok ()
  | .error .otherVersion => Der.whole .malformed readFirstVersion bs
  | .error f => .error f

end Certificate

end ClusterProbe.Pki
