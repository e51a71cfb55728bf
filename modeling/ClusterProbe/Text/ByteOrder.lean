/-
  ClusterProbe.Text.ByteOrder — texts that may start with a mark of byte order.

  The mark is U+FEFF, and its bytes tell the encoding: UTF-16 in either order of bytes, or
  UTF-8, which a text without the mark is in too. The mark is no part of the text.
-/

import ClusterProbe.Text.Utf8

namespace ClusterProbe.Text

/-- A character of two units of UTF-16. -/
def ofSurrogates (high low : Nat) : Char := Char.ofNat (0x10000 + (high - 0xD800) * 1024 + (low - 0xDC00))

/-- Reads units of UTF-16; half of a pair is a fault. -/
def decodeUnits? : List Nat → Option (List Char)
  | [] => some []
  | a :: r =>
    if a < 0xD800 ∨ 0xE000 ≤ a then (decodeUnits? r).map (Char.ofNat a :: ·)
    else match r with
      | b :: r =>
        if a < 0xDC00 ∧ 0xDC00 ≤ b ∧ b < 0xE000 then (decodeUnits? r).map (ofSurrogates a b :: ·) else none
      | [] => none

/-- Two bytes each, the first one being the larger or the smaller part. -/
def unitsOf? (largeFirst : Bool) : List UInt8 → Option (List Nat)
  | [] => some []
  | a :: b :: r =>
    let unit := if largeFirst then 256 * a.toNat + b.toNat else 256 * b.toNat + a.toNat
    (unitsOf? largeFirst r).map (unit :: ·)
  | [_] => none

def decodeMarked? : List UInt8 → Option String
  | 0xFF :: 0xFE :: r => ((unitsOf? false r).bind decodeUnits?).map String.ofList
  | 0xFE :: 0xFF :: r => ((unitsOf? true r).bind decodeUnits?).map String.ofList
  | 0xEF :: 0xBB :: 0xBF :: r => (decode r).toOption
  | bs => (decode bs).toOption

end ClusterProbe.Text
