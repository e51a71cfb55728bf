/-
  ClusterProbe.Text.Utf8 — UTF-8, and where a byte sequence stops being it.

  `decode` reads the longest well-formed start. A fault is told by the index of the
  first byte of the offending sequence and by how many bytes of it can no longer
  become a character; no count means that the input ended inside a character that
  was fine so far.
-/

namespace ClusterProbe.Text

/-- The bytes of a text. -/
def utf8 (s : String) : List UInt8 := s.toList.flatMap String.utf8EncodeChar

theorem utf8_append (s t : String) : utf8 (s ++ t) = utf8 s ++ utf8 t := by
  simp [utf8]

structure Utf8Fault where
  index : Nat
  /-- `none`: the input ended inside a character. -/
  length : Option Nat
  deriving DecidableEq, Repr

namespace Utf8Fault

def message (f : Utf8Fault) : String :=
  match f.length with
  | some n => "invalid utf-8 sequence of " ++ toString n ++ " bytes from index " ++ toString f.index
  | none => "incomplete utf-8 byte sequence from index " ++ toString f.index

end Utf8Fault

/-- A byte that goes on a character. -/
def isTail (b : UInt8) : Bool := 0x80 ≤ b && b ≤ 0xBF

/-- A first byte of three, and whether the byte after it may follow: no surrogate and
no code point that fits in two bytes. -/
def opensThree (a b : UInt8) : Bool :=
  (a == 0xE0 && 0xA0 ≤ b && b ≤ 0xBF) || (0xE1 ≤ a && a ≤ 0xEC && isTail b) ||
    (a == 0xED && 0x80 ≤ b && b ≤ 0x9F) || (0xEE ≤ a && a ≤ 0xEF && isTail b)

/-- A first byte of four, and whether the byte after it may follow: nothing above
U+10FFFF and no code point that fits in three bytes. -/
def opensFour (a b : UInt8) : Bool :=
  (a == 0xF0 && 0x90 ≤ b && b ≤ 0xBF) || (0xF1 ≤ a && a ≤ 0xF3 && isTail b) ||
    (a == 0xF4 && 0x80 ≤ b && b ≤ 0x8F)

def low (b : UInt8) : Nat := b.toNat % 64

/-- Reads the bytes from `index` on. -/
def decodeFrom (index : Nat) : List UInt8 → Except Utf8Fault (List Char)
  | [] => .ok []
  | a :: r =>
    if a < 0x80 then (decodeFrom (index + 1) r).map (Char.ofNat a.toNat :: ·)
    else if 0xC2 ≤ a && a ≤ 0xDF then
      match r with
      | [] => .error ⟨index, none⟩
      | b :: r =>
        if isTail b then
          (decodeFrom (index + 2) r).map (Char.ofNat (a.toNat % 32 * 64 + low b) :: ·)
        else .error ⟨index, some 1⟩
    else if 0xE0 ≤ a && a ≤ 0xEF then
      match r with
      | [] => .error ⟨index, none⟩
      | b :: r =>
        if !opensThree a b then .error ⟨index, some 1⟩ else
        match r with
        | [] => .error ⟨index, none⟩
        | c :: r =>
          if isTail c then
            (decodeFrom (index + 3) r).map
              (Char.ofNat (a.toNat % 16 * 4096 + low b * 64 + low c) :: ·)
          else .error ⟨index, some 2⟩
    else if 0xF0 ≤ a && a ≤ 0xF4 then
      match r with
      | [] => .error ⟨index, none⟩
      | b :: r =>
        if !opensFour a b then .error ⟨index, some 1⟩ else
        match r with
        | [] => .error ⟨index, none⟩
        | c :: r =>
          if !isTail c then .error ⟨index, some 2⟩ else
          match r with
          | [] => .error ⟨index, none⟩
          | d :: r =>
            if isTail d then
              (decodeFrom (index + 4) r).map
                (Char.ofNat (a.toNat % 8 * 262144 + low b * 4096 + low c * 64 + low d) :: ·)
            else .error ⟨index, some 3⟩
    else .error ⟨index, some 1⟩

def decode (bs : List UInt8) : Except Utf8Fault String :=
  (decodeFrom 0 bs).map String.ofList

/-- The mark of a lost character. -/
def lost : Char := Char.ofNat 0xFFFD

/-- Reads all bytes; each sequence that is no character is lost. The counter bounds the
number of such sequences. -/
def decodeLossyFrom : Nat → List UInt8 → List Char
  | 0, _ => []
  | n + 1, bs =>
    match decodeFrom 0 bs with
    | .ok cs => cs
    | .error f =>
      let read := ((decodeFrom 0 (bs.take f.index)).toOption).getD []
      match f.length with
      | none => read ++ [lost]
      | some k => read ++ lost :: decodeLossyFrom n (bs.drop (f.index + k))

def decodeLossy (bs : List UInt8) : String := String.ofList (decodeLossyFrom (bs.length + 1) bs)

end ClusterProbe.Text
