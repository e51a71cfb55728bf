/-
  ClusterProbe.Pki.Identity — what a client shows to prove who it is: a private key, and
  certificates that begin with the key's own.

  All sections of a text are read before any key or certificate is looked into. Of
  several keys the last one of its form counts, a wrapped key before one for RSA, and that
  before one of a curve.
-/

import ClusterProbe.Pki.Certificate
import ClusterProbe.Pki.PrivateKey
import ClusterProbe.Pki.Section

namespace ClusterProbe.Pki

inductive IdentityFault where
  | malformed (f : SectionFault)
  | foreignSection
  | noKey
  | noCertificate
  | badKey
  | badCertificate (f : CertificateFault)
  | keyMismatch
  deriving DecidableEq, Repr

namespace IdentityFault

def message : IdentityFault → String
  | malformed f => "identity PEM is invalid: " ++ f.message
  | foreignSection => "unknown private key format"
  | noKey => "identity PEM is missing a private key: the key must be PKCS8 or RSA/PKCS1"
  | noCertificate => "identity PEM is missing certificate"
  | badKey =>
    "invalid private key: unexpected error: failed to parse private key as RSA, ECDSA, or EdDSA"
  | badCertificate f => "invalid private key: " ++ f.message
  | keyMismatch => "invalid private key: keys may not be consistent: KeyMismatch"

end IdentityFault

namespace Identity

/-- The sections of a text, unless one is at fault or has no place there. -/
def sections : List (Except SectionFault Section) → Except IdentityFault (List Section)
  | [] => .ok []
  | .error f :: _ => .error (.malformed f)
  | .ok s :: r => if s.kind = .foreign then .error .foreignSection else (sections r).map (s :: ·)

/-- What the last section of a kind holds. -/
def last? (ss : List Section) (kind : SectionKind) : Option (SectionKind × List UInt8) :=
  ((ss.filter (·.kind == kind)).getLast?).map fun s => (kind, s.content)

def key? (ss : List Section) : Option (SectionKind × List UInt8) :=
  [SectionKind.privateKey, .rsaKey, .ecKey].findSome? (last? ss)

/-- What is wrong with the identity that a text holds. -/
def check (text : List UInt8) : Except IdentityFault Unit := do
  let ss ← sections (Section.all text)
  let some (kind, key) := key? ss | throw .noKey
  let some first := ss.find? (·.kind == .certificate) | throw .noCertificate
  let some publicKey := PrivateKey.publicKey? kind key | throw .badKey
  let certificate ← (Certificate.ofBytes first.content).mapError .badCertificate
  if publicKey ≠ certificate.publicKey then throw .keyMismatch

end Identity

end ClusterProbe.Pki
