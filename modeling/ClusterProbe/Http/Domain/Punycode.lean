/-
  ClusterProbe.Http.Domain.Punycode — labels beyond ASCII, written in ASCII.

  First come the ASCII characters of the label as they are, with a hyphen behind them
  if there are any; then the other characters in increasing order, each as the number
  of steps from the one before: a step goes on by one place in the label, and at its
  end to the next code point at the front. A number is written with the least digit
  first, in base 36; a digit below the threshold of its place ends it. The thresholds
  follow the size of the numbers written before (`adapt`).
-/

namespace ClusterProbe.Http.Domain.Punycode

def digitChar (d : Nat) : Char := Char.ofNat (if d < 26 then 'a'.toNat + d else '0'.toNat + (d - 26))

def digitValue? (c : Char) : Option Nat :=
  if 'a' ≤ c ∧ c ≤ 'z' then some (c.toNat - 'a'.toNat)
  else if 'A' ≤ c ∧ c ≤ 'Z' then some (c.toNat - 'A'.toNat)
  else if '0' ≤ c ∧ c ≤ '9' then some (c.toNat - '0'.toNat + 26)
  else none

/-! ## Thresholds -/

/-- Between 1 and 26, for the digit at a place counted in steps of 36 from 36 on. -/
def threshold (bias place : Nat) : Nat := min 26 (max 1 (place - bias))

theorem threshold_bounds (bias place : Nat) : 1 ≤ threshold bias place ∧ threshold bias place ≤ 26 := by
  unfold threshold
  omega

/-- Divides until at most 455 is left, counting the divisions by 36. -/
def shrink (delta count : Nat) : Nat × Nat :=
  if 455 < delta then shrink (delta / 35) (count + 36) else (delta, count)
termination_by delta
decreasing_by exact Nat.div_lt_self (by omega) (by omega)

/-- The bias after a number was written, in a label that has now so many characters. -/
def adapt (delta size : Nat) (isFirst : Bool) : Nat :=
  let delta := delta / (if isFirst then 700 else 2)
  let (delta, count) := shrink (delta + delta / size) 0
  count + 36 * delta / (delta + 38)

def startBias : Nat := 72

/-- The first code point beyond ASCII. -/
def start : Nat := 0x80

def isAscii (c : Char) : Bool := c.toNat < start

/-! ## Writing -/

def numeral (bias place n : Nat) : List Char :=
  let t := threshold bias place
  if n < t then [digitChar n]
  else digitChar (t + (n - t) % (36 - t)) :: numeral bias (place + 36) ((n - t) / (36 - t))
termination_by n
decreasing_by
  have h := threshold_bounds bias place
  exact Nat.lt_of_le_of_lt (Nat.div_le_self _ _) (by omega)

structure Writing where
  /-- Steps since the last character that was written. -/
  delta : Nat
  bias : Nat
  /-- Characters written so far. -/
  written : Nat
  digits : List Char

/-- Passes one place of the label while the characters with this code point are written. -/
def Writing.pass (basic point : Nat) (w : Writing) (c : Char) : Writing :=
  if c.toNat < point then { w with delta := w.delta + 1 }
  else if c.toNat = point then
    { delta := 0
      bias := adapt w.delta (w.written + 1) (w.written == basic)
      written := w.written + 1
      digits := w.digits ++ numeral w.bias 36 w.delta }
  else w

/-- Writes the characters of the given code points, in increasing order; `next` is the
least code point not yet written. -/
def writeAll (label : List Char) (basic next : Nat) (w : Writing) : List Nat → List Char
  | [] => w.digits
  | point :: points =>
    let w := { w with delta := w.delta + (point - next) * (w.written + 1) }
    let w := label.foldl (Writing.pass basic point) w
    writeAll label basic (point + 1) { w with delta := w.delta + 1 } points

def encode (label : List Char) : List Char :=
  let basic := label.filter isAscii
  let points := ((label.filter (!isAscii ·)).map Char.toNat).mergeSort.eraseDups
  basic ++ (if basic.isEmpty then [] else ['-']) ++
    writeAll label basic.length start ⟨0, startBias, basic.length, []⟩ points

/-! ## Reading -/

/-- A number and the text after it; a place that 32 bits cannot weigh is none. -/
def readNumeral (bias : Nat) : Nat → Nat → Nat → List Char → Option (Nat × List Char)
  | _, _, _, [] => none
  | place, weight, n, c :: r =>
    match digitValue? c with
    | none => none
    | some d =>
      let t := threshold bias place
      if d < t then some (n + d * weight, r)
      else if 4294967296 ≤ weight * (36 - t) then none
      else readNumeral bias (place + 36) (weight * (36 - t)) (n + d * weight) r

/-- Puts the characters told by the digits into a label; the counter bounds their
number. -/
def insertAll (label : List Char) (point place bias : Nat) : Nat → List Char → Option (List Char)
  | _, [] => some label
  | 0, _ :: _ => none
  | fuel + 1, digits =>
    match readNumeral bias 36 1 0 digits with
    | none => none
    | some (delta, r) =>
      let size := label.length + 1
      let point := point + (place + delta) / size
      let i := (place + delta) % size
      if point.isValidChar then
        insertAll (label.take i ++ Char.ofNat point :: label.drop i) point (i + 1)
          (adapt delta size (place == 0)) fuel r
      else none

/-- What stands before and after the last hyphen. A hyphen that comes first has nothing
before it, and cuts nothing off. -/
def cutBasic (cs : List Char) : List Char × List Char :=
  match cs.reverse.dropWhile (· != '-') with
  | _ :: c :: basic => ((c :: basic).reverse, (cs.reverse.takeWhile (· != '-')).reverse)
  | _ => ([], cs)

def decode (cs : List Char) : Option (List Char) :=
  let (basic, digits) := cutBasic cs
  insertAll basic start 0 startBias digits.length digits

end ClusterProbe.Http.Domain.Punycode
