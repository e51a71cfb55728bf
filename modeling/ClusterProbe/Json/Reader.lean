/-
  ClusterProbe.Json.Reader — JSON text read strictly.

  Blanks are space, tab, newline and carriage return; an integer has no leading zero;
  a control character inside a string, a trailing comma and anything after the value
  are faults. An escape for half of a surrogate pair is none, but spoils the string it
  stands in, and the object of which that string is a name; so does an exponent beyond
  all doubles its number. A reader takes the text
  that is left and returns what it read with the text after it. The counter of
  `readValue` bounds the nesting and the lengths of lists together: twice the length
  of the text is more than any value can need.
-/

import ClusterProbe.Json.Basic

namespace ClusterProbe.Json

def isBlank (c : Char) : Bool := c == ' ' || c == '\n' || c == '\t' || c == '\r'

def skipBlanks (cs : List Char) : List Char := cs.dropWhile isBlank

/-! ## Numbers -/

def natOfDigits (ds : List Char) : Nat := ds.foldl (fun n c => 10 * n + (c.toNat - '0'.toNat)) 0

/-- A run of digits that is not empty. -/
def readDigits (cs : List Char) : Option (List Char × List Char) :=
  match cs.takeWhile Char.isDigit with
  | [] => none
  | ds => some (ds, cs.dropWhile Char.isDigit)

def readFraction : List Char → Option (List Char × List Char)
  | '.' :: r => readDigits r
  | cs => some ([], cs)

def readExponent : List Char → Option (Option Int × List Char)
  | c :: r =>
    if c = 'e' || c = 'E' then
      let (negative, r) := match r with
        | '+' :: r => (false, r)
        | '-' :: r => (true, r)
        | r => (false, r)
      (readDigits r).map fun (ds, r) =>
        (some (if negative then -(natOfDigits ds : Int) else natOfDigits ds), r)
    else some (none, c :: r)
  | [] => some (none, [])

/-- The first integer too large for 64 bits. -/
def wordLimit : Nat := 18446744073709551616

/-- Digits put to the right of a number as long as 64 bits hold it, and the digits from
the first on that has no room. -/
def appendDigits (n : Nat) : List Char → Nat × List Char
  | [] => (n, [])
  | c :: r =>
    let n' := 10 * n + natOfDigits [c]
    if n' < wordLimit then appendDigits n' r else (n, c :: r)

/-- The double of a numeral: as many digits as an integer of 64 bits holds, as a
double, its point moved to where the numeral has it; nothing beyond all doubles. -/
def realOfParts (negative : Bool) (whole fraction : List Char) (exponent : Int) : Option Number :=
  let (n, uncounted) := appendDigits 0 whole
  let (n, ignored) := appendDigits n fraction
  let places := (uncounted.length : Int) - (fraction.length - ignored.length : Nat) + exponent
  ((Double.ofNat n).shift? places).map (.real negative)

/-- An integer literal of at most 64 bits stays one; minus zero does not. -/
def numberOfParts (negative : Bool) (whole fraction : List Char) (exponent : Option Int) : Option Number :=
  let n := natOfDigits whole
  let isInteger := fraction.isEmpty && exponent.isNone &&
    (if negative then 0 < n && n ≤ 9223372036854775808 else n < wordLimit)
  if isInteger then some (.integer (if negative then -(n : Int) else n))
  else realOfParts negative whole fraction (exponent.getD 0)

/-- A number; nothing inside is one beyond all doubles. -/
def readNumber (cs : List Char) : Option (Option Number × List Char) := do
  let (negative, cs) := match cs with
    | '-' :: r => (true, r)
    | cs => (false, cs)
  let (whole, cs) ← readDigits cs
  if whole.head? = some '0' ∧ whole ≠ ['0'] then none
  let (fraction, cs) ← readFraction cs
  let (exponent, cs) ← readExponent cs
  return (numberOfParts negative whole fraction exponent, cs)

/-! ## Strings -/

def hexDigit? (c : Char) : Option Nat :=
  if '0' ≤ c ∧ c ≤ '9' then some (c.toNat - '0'.toNat)
  else if 'a' ≤ c ∧ c ≤ 'f' then some (c.toNat - 'a'.toNat + 10)
  else if 'A' ≤ c ∧ c ≤ 'F' then some (c.toNat - 'A'.toNat + 10)
  else none

/-- Four hexadecimal digits. -/
def readUnit : List Char → Option (Nat × List Char)
  | a :: b :: c :: d :: r => do
    return (4096 * (← hexDigit? a) + 256 * (← hexDigit? b) + 16 * (← hexDigit? c) + (← hexDigit? d), r)
  | _ => none

def simpleEscape? : Char → Option Char
  | '"' => some '"'
  | '\\' => some '\\'
  | '/' => some '/'
  | 'b' => some (Char.ofNat 8)
  | 'f' => some (Char.ofNat 12)
  | 'n' => some '\n'
  | 'r' => some '\r'
  | 't' => some '\t'
  | _ => none

/-- The second half of a surrogate pair, when it is what comes next. -/
def readLowHalf : List Char → Option (Nat × List Char)
  | '\\' :: 'u' :: r => do
    let (low, r) ← readUnit r
    if 0xDC00 ≤ low ∧ low < 0xE000 then return (low - 0xDC00, r) else none
  | _ => none

/-- The character of an escape, after its backslash; half of a surrogate pair has none. -/
def readEscape : List Char → Option (Option Char × List Char)
  | 'u' :: r => do
    let (unit, r) ← readUnit r
    if unit < 0xD800 ∨ 0xE000 ≤ unit then return (some (Char.ofNat unit), r)
    if 0xDC00 ≤ unit then return (none, r)
    match readLowHalf r with
    | some (low, r) => return (some (Char.ofNat (0x10000 + (unit - 0xD800) * 1024 + low)), r)
    | none => return (none, r)
  | c :: r => (simpleEscape? c).map fun c => (some c, r)
  | [] => none

/-- The characters up to the closing quote, after the opening one; `done` holds those
read so far, the last one first, unless the string is spoilt. -/
def readString : Nat → Option (List Char) → List Char → Option (Option String × List Char)
  | 0, _, _ => none
  | _ + 1, _, [] => none
  | _ + 1, done, '"' :: r => some (done.map (String.ofList ·.reverse), r)
  | n + 1, done, '\\' :: r =>
    match readEscape r with
    | some (c, r) => readString n (c.bind fun c => done.map (c :: ·)) r
    | none => none
  | n + 1, done, c :: r => if c.toNat < 0x20 then none else readString n (done.map (c :: ·)) r

/-- A string after its opening quote. -/
def readQuoted (cs : List Char) : Option (Option String × List Char) := readString (cs.length + 1) (some []) cs

/-! ## Values -/

def readWord (word : List Char) (j : Json) (cs : List Char) : Option (Json × List Char) :=
  if cs.take word.length = word then some (j, cs.drop word.length) else none

/-- What was read, unless it stands for nothing. -/
def orIllegible {α : Type} (make : α → Json) (x : Option α) : Json := (x.map make).getD .illegible

def consMember (k : Option String) (x : Json) (ms : Option (List (String × Json))) :
    Option (List (String × Json)) :=
  k.bind fun k => ms.map ((k, x) :: ·)

mutual
def readValue : Nat → List Char → Option (Json × List Char)
  | 0, _ => none
  | n + 1, cs =>
    match skipBlanks cs with
    | [] => none
    | '"' :: r => (readQuoted r).map fun (s, r) => (orIllegible .string s, r)
    | '[' :: r =>
      match skipBlanks r with
      | ']' :: r => some (.array [], r)
      | r => (readItems n r).map fun (xs, r) => (.array xs, r)
    | '\x7b' :: r =>
      match skipBlanks r with
      | '\x7d' :: r => some (.object [], r)
      | r => (readMembers n r).map fun (ms, r) => (orIllegible .object ms, r)
    | 'n' :: r => readWord "null".toList .null ('n' :: r)
    | 't' :: r => readWord "true".toList (.bool true) ('t' :: r)
    | 'f' :: r => readWord "false".toList (.bool false) ('f' :: r)
    | r => (readNumber r).map fun (x, r) => (orIllegible .number x, r)

/-- The items of an array and its closing bracket. -/
def readItems : Nat → List Char → Option (List Json × List Char)
  | 0, _ => none
  | n + 1, cs =>
    match readValue n cs with
    | none => none
    | some (x, r) =>
      match skipBlanks r with
      | ',' :: r => (readItems n r).map fun (xs, r) => (x :: xs, r)
      | ']' :: r => some ([x], r)
      | _ => none

/-- The members of an object, unless a name is spoilt, and its closing brace. -/
def readMembers : Nat → List Char → Option (Option (List (String × Json)) × List Char)
  | 0, _ => none
  | n + 1, cs =>
    match skipBlanks cs with
    | '"' :: r =>
      match readQuoted r with
      | none => none
      | some (k, r) =>
        match skipBlanks r with
        | ':' :: r =>
          match readValue n r with
          | none => none
          | some (x, r) =>
            match skipBlanks r with
            | ',' :: r => (readMembers n r).map fun (ms, r) => (consMember k x ms, r)
            | '\x7d' :: r => some (consMember k x (some []), r)
            | _ => none
        | _ => none
    | _ => none
end

def read? (s : String) : Option Json :=
  let cs := s.toList
  match readValue (2 * cs.length + 2) cs with
  | some (j, r) => if (skipBlanks r).isEmpty then some j else none
  | none => none

end ClusterProbe.Json
