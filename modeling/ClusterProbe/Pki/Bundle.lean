/-
  ClusterProbe.Pki.Bundle — certificates of authorities, in a text of sections.

  A section stands between a BEGIN and an END line of one tag, and holds bytes in base64,
  perhaps after headers and a blank line. What is not in a section does not count, and a
  section that does not end is none. Only certificates are taken out, but every section
  has to be well formed.
-/

import ClusterProbe.Text.Base64
import ClusterProbe.Text.Parts
import ClusterProbe.Text.Utf8

namespace ClusterProbe.Pki

inductive BundleFault where
  | notUtf8 (f : Text.Utf8Fault)
  | noBegin
  | noEnd
  | mismatch (first last : String)
  | data (f : Text.Base64Fault)
  | header (line : String)
  deriving DecidableEq, Repr

namespace BundleFault

def message : BundleFault → String
  | notUtf8 f => "invalid utf-8 value: " ++ f.message
  | noBegin => "missing BEGIN tag"
  | noEnd => "missing END tag"
  | mismatch first last => "mismatching BEGIN (\"" ++ first ++ "\") and END (\"" ++ last ++ "\") tags"
  | data f => "invalid data: " ++ f.message
  | header line => "invalid header: " ++ line

end BundleFault

/-- A section as it was found. -/
structure RawSection where
  first : List UInt8
  payload : List UInt8
  last : List UInt8
  deriving DecidableEq, Repr

namespace RawSection

/-- Looks for the rest of a marker, and returns what stands before the marker and behind
it. A byte that does not go on a marker does not begin one either. -/
def cutFrom (marker : List UInt8) : List UInt8 → List UInt8 → List UInt8 → Option (List UInt8 × List UInt8)
  | [], seen, bs => some ((seen.drop marker.length).reverse, bs)
  | _ :: _, _, [] => none
  | m :: left, seen, b :: bs => cutFrom marker (if b = m then left else marker) (b :: seen) bs

def cut (marker : String) (bs : List UInt8) : Option (List UInt8 × List UInt8) :=
  cutFrom (Text.utf8 marker) (Text.utf8 marker) [] bs

def isGap (b : UInt8) : Bool := b == 9 || b == 10 || b == 13 || b == 32

/-- The first section, and what follows it. -/
def next? (bs : List UInt8) : Option (RawSection × List UInt8) := do
  let (_, bs) ← cut "-----BEGIN " bs
  let (first, bs) ← cut "-----" bs
  let (payload, bs) ← cut "-----END " (bs.dropWhile isGap)
  let (last, bs) ← cut "-----" bs
  return (⟨first, payload, last⟩, bs.dropWhile isGap)

/-- All sections. As many are enough as the text has bytes. -/
def all : Nat → List UInt8 → List RawSection
  | 0, _ => []
  | n + 1, bs =>
    match next? bs with
    | some (s, bs) => s :: all n bs
    | none => []

def text (bs : List UInt8) : Except BundleFault String := (Text.decode bs).mapError .notUtf8

/-- Headers end at the first blank line. -/
def headersAndData (payload : List UInt8) : List UInt8 × List UInt8 :=
  ((cut "\n\n" payload).or (cut "\r\n\r\n" payload)).getD ([], payload)

def checkHeader (line : List Char) : Except BundleFault Unit :=
  if ':' ∈ line then .ok () else .error (.header (String.ofList line))

/-- The tag of a section and the bytes in it. -/
def open? (s : RawSection) : Except BundleFault (String × List UInt8) := do
  let first ← text s.first
  if first = "" then throw .noBegin
  let last ← text s.last
  if last = "" then throw .noEnd
  if first ≠ last then throw (.mismatch first last)
  let (headers, data) := headersAndData s.payload
  let symbols := (Text.lines (← text data).toList).flatMap Text.trimEnd
  let content ← (Text.decodeBase64 (Text.utf8 (String.ofList symbols))).mapError .data
  (Text.lines (← text headers).toList).forM checkHeader
  return (first, content)

end RawSection

/-- The certificates of a bundle. -/
def certificatesOf (bs : List UInt8) : Except BundleFault (List (List UInt8)) := do
  let sections ← (RawSection.all bs.length bs).mapM RawSection.open?
  return (sections.filter (·.1 == "CERTIFICATE")).map (·.2)

end ClusterProbe.Pki
