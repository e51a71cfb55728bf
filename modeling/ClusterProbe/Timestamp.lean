/-
  ClusterProbe.Timestamp — moments in time, and how they are written.

  A moment is written as a date, a time and the offset of its zone, much as in
  `2000-01-01T00:00:00Z`. Blanks may stand before every part, a year of more than four
  digits has a sign, and the zone is Z, UTC, or hours and minutes. The first part that
  does not fit tells the fault.
-/

import ClusterProbe.Text.Parts

namespace ClusterProbe

inductive TimestampFault where
  | outOfRange
  /-- The moment is beyond all dates in its zone's time. -/
  | impossible
  | invalid
  | tooShort
  | tooLong
  deriving DecidableEq, Repr

namespace TimestampFault

def message : TimestampFault → String
  | outOfRange => "input is out of range"
  | impossible => "no possible date and time matching input"
  | invalid => "input contains invalid characters"
  | tooShort => "premature end of input"
  | tooLong => "trailing input"

end TimestampFault

/-- Seconds since the beginning of 1970, and nanoseconds. A leap second has more
nanoseconds than others. -/
structure Timestamp where
  seconds : Int
  nanoseconds : Nat := 0
  deriving DecidableEq, Repr

namespace Timestamp

def isBefore (a b : Timestamp) : Bool :=
  a.seconds < b.seconds || (a.seconds == b.seconds && a.nanoseconds < b.nanoseconds)

def later (t : Timestamp) (seconds : Nat) : Timestamp := { t with seconds := t.seconds + seconds }

/-! ## The calendar -/

def isLeap (year : Int) : Bool := year % 4 == 0 && (year % 100 != 0 || year % 400 == 0)

def monthLengths (year : Int) : List Nat := [31, if isLeap year then 29 else 28, 31, 30, 31, 30, 31, 31, 30, 31, 30, 31]

/-- Days from the beginning of year 1 to the beginning of a year. -/
def daysBeforeYear (year : Int) : Int :=
  let y := year - 1
  365 * y + y / 4 - y / 100 + y / 400

def firstYear : Int := -262143

def lastYear : Int := 262142

/-- The day of a date, counted from 1970, if there is that date. -/
def day? (year : Int) (month day : Nat) : Option Int :=
  let lengths := monthLengths year
  if year < firstYear ∨ lastYear < year ∨ lengths.getD (month - 1) 0 < day then none
  else
    let before : Nat := (lengths.take (month - 1)).foldl (· + ·) 0
    some (daysBeforeYear year - daysBeforeYear 1970 + before + day - 1)

/-- The time lies in the years that dates have. -/
def isPossible (t : Timestamp) : Bool :=
  let start (year : Int) := 86400 * (daysBeforeYear year - daysBeforeYear 1970)
  start firstYear ≤ t.seconds && t.seconds < start (lastYear + 1)

/-! ## Reading -/

abbrev Reading := StateT (List Char) (Except TimestampFault)

def skipSpace : Reading Unit := modify Text.trimStart

/-- The largest number that is read. -/
def largest : Nat := 9223372036854775807

/-- The number that at most so many digits write. -/
def digits (most : Nat) : Reading Nat := do
  match ← get with
  | [] => throw .tooShort
  | c :: r =>
    if !c.isDigit then throw .invalid
    let ds := ((c :: r).take most).takeWhile Char.isDigit
    let n := ds.foldl (fun n d => 10 * n + (d.toNat - '0'.toNat)) 0
    if largest < n then throw .outOfRange
    set ((c :: r).drop ds.length)
    return n

def literal (c : Char) : Reading Unit := do
  skipSpace
  match ← get with
  | [] => throw .tooShort
  | d :: r => if d = c then set r else throw .invalid

/-- A part of two digits that lies in a range. -/
def field (first last : Nat) : Reading Nat := do
  skipSpace
  let n ← digits 2
  if n < first ∨ last < n then throw .outOfRange
  return n

/-- Years that have 32 bits. -/
def readYear : Reading Int := do
  skipSpace
  let year : Int ← match ← get with
    | '-' :: r => do set r; pure (-(← digits r.length : Int))
    | '+' :: r => do set r; pure (← digits r.length : Int)
    | _ => pure (← digits 4 : Int)
  if year < -2147483648 ∨ 2147483647 < year then throw .outOfRange
  return year

/-- Nanoseconds behind a point; what is finer than them does not count. -/
def readFraction : Reading Nat := do
  match ← get with
  | '.' :: r =>
    set r
    let n ← digits 9
    let places := r.length - (← get).length
    modify (List.dropWhile Char.isDigit)
    return n * (1 :: [10, 100, 1000, 10000, 100000, 1000000, 10000000, 100000000, 1000000000]).getD (9 - places) 1
  | _ => return 0

/-- Two digits, and no blanks before them. -/
def digitPair : Reading (Nat × Nat) := do
  match ← get with
  | [] => throw .tooShort
  | [c] => throw (if c.toNat < 0x80 then .tooShort else .invalid)
  | a :: b :: r =>
    if !a.isDigit || !b.isDigit then throw .invalid
    set r
    return (a.toNat - '0'.toNat, b.toNat - '0'.toNat)

def isSeparator (c : Char) : Bool := c == ':' || Text.isSpace c

/-- Hours and minutes, in seconds. -/
def readOffset : Reading Nat := do
  let (a, b) ← digitPair
  modify (List.dropWhile isSeparator)
  let (c, d) ← digitPair
  if 5 < c then throw .outOfRange
  return 3600 * (10 * a + b) + 60 * (10 * c + d)

def isUniversal (cs : List Char) : Bool := (cs.take 3).map Char.toUpper == ['U', 'T', 'C']

/-- How many seconds the zone is ahead. -/
def readZone : Reading Int := do
  let cs ← get
  if isUniversal cs then set (cs.drop 3); return 0
  match cs with
  | [] => throw .tooShort
  | c :: r =>
    set r
    if c = 'Z' ∨ c = 'z' then return 0
    if c = '+' then return (← readOffset)
    if c = '-' ∨ c.toNat = 0x2212 then return -(← readOffset : Int)
    throw .invalid

def read : Reading Timestamp := do
  let year ← readYear
  literal '-'
  let month ← field 1 12
  literal '-'
  let day ← field 1 31
  match ← get with
  | [] => throw .tooShort
  | c :: r => if c = 'T' ∨ c = 't' ∨ c = ' ' then set r else throw .invalid
  let hour ← field 0 23
  literal ':'
  let minute ← field 0 59
  literal ':'
  let second ← field 0 60
  let fraction ← readFraction
  skipSpace
  let offset ← readZone
  skipSpace
  if !(← get).isEmpty then throw .tooLong
  let some days := day? year month day | throw .outOfRange
  if 86400 ≤ offset.natAbs then throw .outOfRange
  let t : Timestamp := {
    seconds := 86400 * days + 3600 * hour + 60 * minute + min second 59 - offset
    nanoseconds := if second = 60 then fraction + 1000000000 else fraction }
  if t.isPossible then return t else throw .impossible

def ofText (s : String) : Except TimestampFault Timestamp := (read.run s.toList).map (·.1)

end Timestamp

end ClusterProbe
