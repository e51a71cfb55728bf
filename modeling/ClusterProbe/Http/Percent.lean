/-
  ClusterProbe.Http.Percent — bytes written as a percent sign and two hexadecimal digits.

  `encode` writes the UTF-8 of a text so, where a character is a control, is beyond
  ASCII, or is one of the signs given. `decode` turns such writing back into bytes; a
  percent sign without two digits after it stands for itself.
-/

import ClusterProbe.Text.Utf8

namespace ClusterProbe.Http

/-! ## Digits -/

def digitValue? (radix : Nat) (c : Char) : Option Nat :=
  let v :=
    if '0' ≤ c ∧ c ≤ '9' then c.toNat - '0'.toNat
    else if 'a' ≤ c ∧ c ≤ 'z' then c.toNat - 'a'.toNat + 10
    else if 'A' ≤ c ∧ c ≤ 'Z' then c.toNat - 'A'.toNat + 10
    else radix
  if v < radix then some v else none

def numeral? (radix : Nat) (cs : List Char) : Option Nat :=
  cs.foldl (fun n c => n.bind fun n => (digitValue? radix c).map (radix * n + ·)) (some 0)

namespace Percent

def encodeByte (b : UInt8) : List Char :=
  ['%', (Nat.digitChar (b.toNat / 16)).toUpper, (Nat.digitChar (b.toNat % 16)).toUpper]

def encodeChar (c : Char) : List Char := (String.utf8EncodeChar c).flatMap encodeByte

def encode (signs : List Char) (cs : List Char) : List Char :=
  cs.flatMap fun c => if c.toNat < 0x20 ∨ 0x7F ≤ c.toNat ∨ signs.contains c then encodeChar c else [c]

def decode : List UInt8 → List UInt8
  | 0x25 :: a :: b :: r =>
    match digitValue? 16 (Char.ofNat a.toNat), digitValue? 16 (Char.ofNat b.toNat) with
    | some x, some y => UInt8.ofNat (16 * x + y) :: decode r
    | _, _ => 0x25 :: decode (a :: b :: r)
  | c :: r => c :: decode r
  | [] => []
termination_by bs => bs.length

end Percent

end ClusterProbe.Http
