/-
  ClusterProbe.Text.CharTable — properties of characters, as tables of ranges.

  A table is written as a text of rows, with blanks and line ends between them, in
  increasing order. A row is made of numbers in hexadecimal with signs between them: a
  code point, or the first and the last of a closed range, or these and the value of
  the property there. The value is 1 if none is written, and 0 outside all rows.
-/

namespace ClusterProbe.Text

/-! ## Rows -/

/-- The rows of a written table. -/
def rows (s : String) : List String :=
  (s.splitOn "\n").flatMap fun line => (line.splitOn " ").filter (· ≠ "")

def hexValue? (c : Char) : Option Nat :=
  if '0' ≤ c ∧ c ≤ '9' then some (c.toNat - '0'.toNat)
  else if 'a' ≤ c ∧ c ≤ 'f' then some (c.toNat - 'a'.toNat + 10)
  else none

/-- The numbers of a row; every other sign ends one. -/
def numbersFrom (n : Nat) : List Char → List Nat
  | [] => [n]
  | c :: r =>
    match hexValue? c with
    | some d => numbersFrom (16 * n + d) r
    | none => n :: numbersFrom 0 r

def numbers (row : String) : List Nat := numbersFrom 0 row.toList

/-! ## Search -/

/-- The place of the last row that starts at `n` or below, between `lo` and `hi` or
just before them; the first row if all of them start above. -/
def lastBelow {α : Type} (table : Array α) (first : α → Nat) (n lo hi : Nat) : Nat :=
  if lo < hi then
    let mid := (lo + hi) / 2
    match table[mid]? with
    | some row => if first row ≤ n then lastBelow table first n (mid + 1) hi else lastBelow table first n lo mid
    | none => lo - 1
  else lo - 1
termination_by hi - lo

/-- The only row of an ordered table that may be about `n`. -/
def rowAt? {α : Type} (table : Array α) (first : α → Nat) (n : Nat) : Option α :=
  table[lastBelow table first n 0 table.size]?

/-! ## Tables -/

/-- A closed range of code points with the value of a property. -/
structure CharRange where
  first : Nat
  last : Nat
  value : Nat
  deriving DecidableEq, Repr

namespace CharRange

def ofNumbers : List Nat → CharRange
  | [a] => ⟨a, a, 1⟩
  | [a, b] => ⟨a, b, 1⟩
  | a :: b :: v :: _ => ⟨a, b, v⟩
  | [] => ⟨1, 0, 0⟩

end CharRange

structure CharTable where
  ranges : Array CharRange

namespace CharTable

def ofText (s : String) : CharTable := ⟨((rows s).map fun row => .ofNumbers (numbers row)).toArray⟩

def valueOf (t : CharTable) (c : Char) : Nat :=
  match rowAt? t.ranges CharRange.first c.toNat with
  | some r => if r.first ≤ c.toNat ∧ c.toNat ≤ r.last then r.value else 0
  | none => 0

def contains (t : CharTable) (c : Char) : Bool := t.valueOf c ≠ 0

end CharTable

end ClusterProbe.Text
