/-
  ClusterProbe.Pki.Der — tagged values in bytes (DER).

  A value is told by a tag of one byte and a length in as few bytes as it takes, and is
  shorter than 65535 bytes. A reading takes values off a sequence of bytes; what is
  wrong with the bytes is told by a fault of the caller's choice.
-/

import ClusterProbe.Pki.Bytes

namespace ClusterProbe.Pki

/-- Reads from the start of some bytes, and leaves the rest. -/
abbrev Der (ε α : Type) := StateT (List UInt8) (Except ε) α

namespace Der

variable {ε α : Type}

/-! ## Tags -/

def boolean : UInt8 := 0x01
def integer : UInt8 := 0x02
def bitString : UInt8 := 0x03
def octetString : UInt8 := 0x04
def identifier : UInt8 := 0x06
def sequence : UInt8 := 0x30
/-- The tag of a member that is told by its number and holds a value with a tag. -/
def member (n : Nat) : UInt8 := UInt8.ofNat (0xA0 + n)
/-- The tag of a member that is told by its number and holds no tag of its own. -/
def bareMember (n : Nat) : UInt8 := UInt8.ofNat (0x80 + n)

/-! ## Lengths -/

/-- The first length that is too long. -/
def tooLong : Nat := 65535

/-- The number that some bytes write, and that it takes all of them. -/
def longLength? (bytes least : Nat) (bs : List UInt8) : Option (Nat × List UInt8) :=
  let n := Bytes.toNat (bs.take bytes)
  if bs.length < bytes ∨ n < least then none else some (n, bs.drop bytes)

def length? : List UInt8 → Option (Nat × List UInt8)
  | [] => none
  | b :: r =>
    if b < 0x80 then some (b.toNat, r)
    else if b = 0x81 then longLength? 1 128 r
    else if b = 0x82 then longLength? 2 256 r
    else none

/-- The tag of the first value, the value, and what follows it. -/
def split? : List UInt8 → Option (UInt8 × List UInt8 × List UInt8)
  | [] => none
  | tag :: r => do
    if tag &&& 0x1F = 0x1F then none
    let (n, r) ← length? r
    if tooLong ≤ n ∨ r.length < n then none
    return (tag, r.take n, r.drop n)

/-! ## Readings -/

/-- Takes a value of a tag. -/
def value (bad : ε) (tag : UInt8) : Der ε (List UInt8) := fun bs =>
  match split? bs with
  | some (t, v, rest) => if t = tag then .ok (v, rest) else .error bad
  | none => .error bad

/-- The next value has the tag. -/
def sees (tag : UInt8) : Der ε Bool := fun bs => .ok (bs.head? == some tag, bs)

def atEnd : Der ε Bool := fun bs => .ok (bs.isEmpty, bs)

/-- A reading of all of some bytes; anything left over is wrong. -/
def whole (leftOver : ε) (read : Der ε α) (bs : List UInt8) : Except ε α :=
  match read bs with
  | .ok (a, []) => .ok a
  | .ok (_, _ :: _) => .error leftOver
  | .error e => .error e

/-- A reading of all that a value of a tag holds. -/
def within (bad leftOver : ε) (tag : UInt8) (read : Der ε α) : Der ε α := do
  (whole leftOver read (← value bad tag) : Except ε α)

/-- Bits that fill whole bytes, under a tag. -/
def bitsOf (bad : ε) (tag : UInt8) : Der ε (List UInt8) := do
  match ← value bad tag with
  | 0 :: bs => return bs
  | _ => throw bad

def bits (bad : ε) : Der ε (List UInt8) := bitsOf bad bitString

/-- A number that is not negative, written as short as can be. -/
def natural (bad : ε) : Der ε Nat := do
  let bs ← value bad integer
  let shortest := match bs with
    | [] => false
    | [b] => b < 0x80
    | a :: b :: _ => (a == 0 && 0x80 ≤ b) || (0 < a && a < 0x80)
  if shortest then return Bytes.toNat bs else throw bad

/-! ## Writing -/

def lengthBytes (n : Nat) : List UInt8 :=
  if n < 128 then [.ofNat n]
  else if n < 256 then [0x81, .ofNat n]
  else [0x82, .ofNat (n / 256), .ofNat (n % 256)]

/-- A value with its tag. -/
def wrap (tag : UInt8) (bs : List UInt8) : List UInt8 := tag :: lengthBytes bs.length ++ bs

/-- A number that is not negative, as a value. -/
def wrapNatural (n : Nat) : List UInt8 :=
  let bs := Bytes.shortest (n.log2 + 1) n
  wrap integer (if (bs.head?.getD 0x80) < 0x80 then bs else 0 :: bs)

end Der

end ClusterProbe.Pki
