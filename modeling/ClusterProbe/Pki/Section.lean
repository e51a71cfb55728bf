/-
  ClusterProbe.Pki.Section — certificates and keys, in a text read line by line.

  A line that starts with BEGIN and a label opens a section, even inside another one,
  whose lines it then takes over; the line that starts with END and the label closes it.
  Sections of unknown labels do not count. The lines between hold bytes in base64, which
  may be blank at any place and need not be padded. A fault ends the list of sections.
-/

import ClusterProbe.Text.Base64
import ClusterProbe.Text.Utf8

namespace ClusterProbe.Pki

inductive BodyFault where
  | character (byte : UInt8)
  | prematurePadding
  | trailingPadding
  deriving DecidableEq, Repr

inductive SectionFault where
  | illegalStart (line : List UInt8)
  | noEnd (label : List UInt8)
  | body (f : BodyFault)
  deriving DecidableEq, Repr

namespace BodyFault

def text : BodyFault → String
  | character b => "InvalidCharacter(" ++ toString b.toNat ++ ")"
  | prematurePadding => "PrematurePadding"
  | trailingPadding => "InvalidTrailingPadding"

end BodyFault

namespace SectionFault

def bytesText (bs : List UInt8) : String :=
  "[" ++ ", ".intercalate (bs.map fun b => toString b.toNat) ++ "]"

def message : SectionFault → String
  | illegalStart line => "illegal section start: " ++ bytesText line
  | noEnd label => "missing section end marker: " ++ bytesText label
  | body f => "base64 decode error: " ++ f.text

end SectionFault

/-! ## Bodies -/

namespace Body

/-- A digit, or `none` for padding. -/
abbrev Symbol := Option Nat

def symbol? (b : UInt8) : Option Symbol :=
  if b = Text.base64Pad then some none else (Text.base64Digit? b).map some

def isGap (b : UInt8) : Bool := b == 32 || (9 ≤ b && b ≤ 13)

/-- The bytes of four symbols that are followed by others. -/
def inner : List Symbol → Except BodyFault (List UInt8)
  | [some a, some b, some c, some d] => .ok (Text.base64Bytes a b c d)
  | _ => .error .prematurePadding

/-- The bytes of the last symbols, at most four. -/
def ending : List Symbol → Except BodyFault (List UInt8)
  | [] => .ok []
  | [some a, some b, some c, some d] => .ok (Text.base64Bytes a b c d)
  | [some a, some b, some c, none] | [some a, some b, some c] => .ok ((Text.base64Bytes a b c 0).take 2)
  | [some a, some b, none, none] | [some a, some b] => .ok ((Text.base64Bytes a b 0 0).take 1)
  | _ => .error .trailingPadding

/-- The bytes of the last symbols, at most eight. Of more than four, padding comes too
early before the last four, and is none of the last four if they are not a full group. -/
def endingOfBlock (block : List Symbol) : Except BodyFault (List UInt8) := do
  if block.length ≤ 4 then ending block
  else if (block.take (block.length - 4)).contains none then throw .prematurePadding
  else if block.length < 8 && block.contains none then throw .trailingPadding
  else return (← inner (block.take 4)) ++ (← ending (block.drop 4))

/-- Reads on behind at most eight symbols, which are looked at when a ninth one or the
end is seen. -/
def decodeFrom (block : List Symbol) : List UInt8 → Except BodyFault (List UInt8)
  | [] => endingOfBlock block
  | b :: r =>
    if isGap b then decodeFrom block r
    else match symbol? b with
      | none => .error (.character b)
      | some s => do
        if block.length < 8 then decodeFrom (block ++ [s]) r
        else return (← inner (block.take 4)) ++ (← inner (block.drop 4)) ++ (← decodeFrom [s] r)

def decode (bs : List UInt8) : Except BodyFault (List UInt8) := decodeFrom [] bs

end Body

/-! ## Sections -/

inductive SectionKind where
  | certificate
  | privateKey
  | rsaKey
  | ecKey
  /-- Known, but neither a certificate nor a private key. -/
  | foreign
  deriving DecidableEq, Repr

namespace SectionKind

def ofLabel? (label : List UInt8) : Option SectionKind :=
  match (Text.decode label).toOption with
  | some "CERTIFICATE" => some certificate
  | some "PRIVATE KEY" => some privateKey
  | some "RSA PRIVATE KEY" => some rsaKey
  | some "EC PRIVATE KEY" => some ecKey
  | some "PUBLIC KEY" | some "X509 CRL" | some "CERTIFICATE REQUEST" | some "ECHCONFIG" => some foreign
  | _ => none

end SectionKind

structure Section where
  kind : SectionKind
  content : List UInt8
  deriving DecidableEq, Repr

namespace Section

/-- The lines of a text with their ends, of one byte each. -/
def lines : List UInt8 → List (List UInt8)
  | [] => []
  | b :: r =>
    if b = 10 ∨ b = 13 then [b] :: lines r
    else match lines r with
      | [] => [[b]]
      | l :: ls => (b :: l) :: ls

def beginMark : List UInt8 := Text.utf8 "-----BEGIN "

/-- The five dashes behind a label. -/
def dashes : List UInt8 := List.replicate 5 45

def endMark (label : List UInt8) : List UInt8 := Text.utf8 "-----END " ++ label ++ dashes

/-- Strips the dashes that a reversed line starts with, blanks between them not counted,
and tells how many dashes there were, and what follows the last of them. -/
def stripDashes (count : Nat) (last : List UInt8) : List UInt8 → Nat × List UInt8
  | b :: r =>
    if b = 45 then stripDashes (count + 1) r r
    else if b = 10 ∨ b = 13 ∨ b = 32 then stripDashes count last r
    else (count, last)
  | [] => (count, last)

/-- The label of a line that opens a section. -/
def label? (line : List UInt8) : Option (List UInt8) :=
  match stripDashes 0 line.reverse line.reverse with
  | (5, rest) => some (rest.reverse.drop beginMark.length)
  | _ => none

/-- Reads lines, perhaps inside a section of a label with some bytes of its body. -/
def read : Option (List UInt8) → List UInt8 → List (List UInt8) → List (Except SectionFault Section)
  | none, _, [] => []
  | some label, _, [] => [.error (.noEnd label)]
  | current, body, line :: rest =>
    if beginMark.isPrefixOf line then
      match label? line with
      | some label => read (some label) body rest
      | none => [.error (.illegalStart line)]
    else match current with
      | none => read none body rest
      | some label =>
        if !(endMark label).isPrefixOf line then read current (body ++ line) rest
        else match SectionKind.ofLabel? label with
          | none => read none [] rest
          | some kind =>
            match Body.decode body with
            | .ok content => .ok ⟨kind, content⟩ :: read none [] rest
            | .error f => [.error (.body f)]

/-- The sections of a text, up to the first fault. -/
def all (bs : List UInt8) : List (Except SectionFault Section) := read none [] (lines bs)

end Section

end ClusterProbe.Pki
