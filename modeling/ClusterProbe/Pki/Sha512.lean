/-
  ClusterProbe.Pki.Sha512 — the digest of 512 bits that Edwards signatures are made with.

  A message is padded to blocks of 128 bytes. A block is mixed into a state of eight words
  in eighty rounds, each with a word of a schedule, which the block starts, and a constant.
  The constants, and the first state, are the first bits behind the point of roots of the
  first primes.
-/

import ClusterProbe.Pki.Bytes

namespace ClusterProbe.Pki.Sha512

/-! ## Constants -/

/-- The first eighty primes. -/
def primes : List Nat :=
  (List.range 410).filter fun n => 2 ≤ n && (List.range n).all fun d => d < 2 || n % d != 0

/-- Adds smaller and smaller bits to a number, as long as its power does not exceed a
bound. -/
def refine (power : Nat → Nat) (bound : Nat) : Nat → Nat → Nat
  | 0, r => r
  | k + 1, r =>
    let s := r + Nat.shiftLeft 1 k
    refine power bound k (if power s ≤ bound then s else r)

/-- The first 64 bits behind the point of a square root. -/
def squareRootBits (n : Nat) : UInt64 := .ofNat (refine (fun x => x * x) (Nat.shiftLeft n 128) 72 0)

/-- The first 64 bits behind the point of a cube root. -/
def cubeRootBits (n : Nat) : UInt64 := .ofNat (refine (fun x => x * x * x) (Nat.shiftLeft n 192) 72 0)

/-! ## Blocks -/

structure State where
  a : UInt64
  b : UInt64
  c : UInt64
  d : UInt64
  e : UInt64
  f : UInt64
  g : UInt64
  h : UInt64
  deriving DecidableEq, Repr

def rotate (x : UInt64) (n : UInt64) : UInt64 := (x >>> n) ||| (x <<< (64 - n))

namespace State

def round (s : State) (constant word : UInt64) : State :=
  let mixed := rotate s.e 14 ^^^ rotate s.e 18 ^^^ rotate s.e 41
  let choice := (s.e &&& s.f) ^^^ (~~~s.e &&& s.g)
  let first := s.h + mixed + choice + constant + word
  let majority := (s.a &&& s.b) ^^^ (s.a &&& s.c) ^^^ (s.b &&& s.c)
  let second := (rotate s.a 28 ^^^ rotate s.a 34 ^^^ rotate s.a 39) + majority
  ⟨first + second, s.a, s.b, s.c, s.d + first, s.e, s.f, s.g⟩

def add (s t : State) : State :=
  ⟨s.a + t.a, s.b + t.b, s.c + t.c, s.d + t.d, s.e + t.e, s.f + t.f, s.g + t.g, s.h + t.h⟩

def ofWords : List UInt64 → State
  | [a, b, c, d, e, f, g, h] => ⟨a, b, c, d, e, f, g, h⟩
  | _ => ⟨0, 0, 0, 0, 0, 0, 0, 0⟩

def toBytes (s : State) : List UInt8 :=
  [s.a, s.b, s.c, s.d, s.e, s.f, s.g, s.h].flatMap fun w => Bytes.ofNat 8 w.toNat

/-- The state before any block. -/
def first : State := ofWords ((primes.take 8).map squareRootBits)

end State

/-- The next word after sixteen words of the schedule. -/
def nextWord (ws : List UInt64) : UInt64 :=
  let early := ws.getD 1 0
  let late := ws.getD 14 0
  ws.getD 0 0 + (rotate early 1 ^^^ rotate early 8 ^^^ (early >>> 7)) + ws.getD 9 0 +
    (rotate late 19 ^^^ rotate late 61 ^^^ (late >>> 6))

/-- One round for each constant, with the next sixteen words of the schedule being given. -/
def rounds (s : State) : List UInt64 → List UInt64 → State
  | _, [] => s
  | ws, k :: ks => rounds (s.round k (ws.getD 0 0)) (ws.drop 1 ++ [nextWord ws]) ks

def mix (s : State) (words : List UInt64) : State := s.add (rounds s words (primes.map cubeRootBits))

def wordsOf : Nat → List UInt8 → List UInt64
  | 0, _ => []
  | n + 1, bs => .ofNat (Bytes.toNat (bs.take 8)) :: wordsOf n (bs.drop 8)

/-- Takes so many blocks in. -/
def absorb (s : State) : Nat → List UInt8 → State
  | 0, _ => s
  | n + 1, bs => absorb (mix s (wordsOf 16 bs)) n (bs.drop 128)

/-! ## Messages -/

/-- What follows a message of so many bytes: a bit, zeros up to the end of a block, and
the length in bits. -/
def padding (length : Nat) : List UInt8 :=
  0x80 :: List.replicate ((239 - length % 128) % 128) 0 ++ Bytes.ofNat 16 (8 * length)

def digest (message : List UInt8) : List UInt8 :=
  let padded := message ++ padding message.length
  (absorb .first (padded.length / 128) padded).toBytes

end ClusterProbe.Pki.Sha512
