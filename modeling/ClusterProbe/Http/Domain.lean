/-
  ClusterProbe.Http.Domain — names of domains, brought to ASCII.

  Each character of a name is used as `Usage` says, the text is composed, and then cut
  into labels at its dots. A label that starts with `xn--` has to be the ASCII form of
  another label, in which no character needs any change. Characters that mean
  something in a URL are refused in every label, whether they were written or decoded.
  A label beyond ASCII neither starts with a mark nor holds misplaced joiners, and all
  labels together keep to their directions. Empty labels are fine here.
-/

import ClusterProbe.Http.Domain.Direction
import ClusterProbe.Http.Domain.Joining
import ClusterProbe.Http.Domain.Punycode
import ClusterProbe.Http.Domain.Usage
import ClusterProbe.Text.Mark
import ClusterProbe.Text.Parts

namespace ClusterProbe.Http

namespace Domain

open Punycode (isAscii)

/-! ## Characters -/

/-- Signs that mean something in a URL. -/
def urlSigns : List Char := ['#', '/', ':', '<', '>', '?', '@', '[', '\\', ']', '^', '|', '%']

/-- The ASCII characters of names: no controls, blanks and signs of URLs. -/
def isAllowed (c : Char) : Bool := !isAscii c || (0x20 < c.toNat && c.toNat < 0x7F && !urlSigns.contains c)

/-- Every character used as it has to be; nothing if one is refused. -/
def adjusted? : List Char → Option (List Char)
  | [] => some []
  | c :: r =>
    match usage c with
    | .kept => (adjusted? r).map (c :: ·)
    | .dropped => adjusted? r
    | .replaced others => (adjusted? r).map (others ++ ·)
    | .refused => none

/-! ## Labels -/

/-- How the ASCII form of a label starts. -/
def encodedMark : List Char := ['x', 'n', '-', '-']

/-- The longest ASCII form that is decoded, and the longest label that is encoded. -/
def decodeLimit : Nat := 2000
def encodeLimit : Nat := 1000

/-- The label behind its ASCII form without the mark: it needed to be encoded, and is
what it was when it was. -/
def decoded? (form : List Char) : Option (List Char) :=
  if form.getLast? = some '-' ∨ form.isEmpty ∨ decodeLimit < form.length then none
  else match Punycode.decode form with
    | none => none
    | some label =>
      if label.all (fun c => usage c == .kept && c != '.') && Text.composed label == label then some label
      else none

/-- The label that a part of an adjusted name stands for. -/
def label? (part : List Char) : Option (List Char) :=
  if encodedMark.isPrefixOf part then
    if part.all isAscii then decoded? (part.drop encodedMark.length) else none
  else some part

/-- The characters of a label may stand together. -/
def isSound (label : List Char) : Bool :=
  label.all isAllowed &&
    (label.all isAscii ||
      (label.length ≤ encodeLimit && !((label.head?.map Text.isMark).getD false) && isJoined label))

def labelText (label : List Char) : List Char :=
  if label.all isAscii then label else encodedMark ++ Punycode.encode label

/-! ## Names -/

/-- A name in ASCII. -/
def toAscii? (cs : List Char) : Option (List Char) := do
  let adjusted ← adjusted? cs
  let text := if adjusted.all isAscii then adjusted else Text.composed adjusted
  let labels ← (Text.splitAt '.' text).mapM label?
  if labels.all isSound && (labels.all (·.all isAscii) || isDirected labels) then
    return ['.'].intercalate (labels.map labelText)
  else none

end Domain

end ClusterProbe.Http
