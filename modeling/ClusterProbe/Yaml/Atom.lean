/-
  ClusterProbe.Yaml.Atom — what a scalar means by itself.

  A plain scalar may be null, a truth value or a number; everything else is text. An
  integer is decimal, or hexadecimal, octal or binary behind `0x`, `0o` and `0b`; digits
  behind a zero are text. An integer of more than 64 bits has no meaning, and one of more
  than 128 bits is a real number. So is a decimal fraction as long as a double can hold
  it. Numbers are the same if they are equal, and zero has no sign; an integer is never
  the same as a real number.
-/

import ClusterProbe.Json.Reader
import ClusterProbe.Yaml.Scalar
import ClusterProbe.Yaml.Tag

namespace ClusterProbe.Yaml

inductive Atom where
  | null
  | bool (b : Bool)
  | integer (n : Int)
  | real (negative : Bool) (magnitude : Double)
  | infinite (negative : Bool)
  | notANumber
  | text (s : String)
  deriving DecidableEq, Repr

namespace Atom

/-! ## Words -/

def isNullWord (s : String) : Bool := ["null", "Null", "NULL", "~"].contains s

def truth? (s : String) : Option Bool :=
  if ["true", "True", "TRUE"].contains s then some true
  else if ["false", "False", "FALSE"].contains s then some false
  else none

/-! ## Integers -/

def splitSign : List Char → Bool × List Char
  | '-' :: r => (true, r)
  | '+' :: r => (false, r)
  | cs => (false, cs)

/-- Digits behind a zero. -/
def isPadded (cs : List Char) : Bool :=
  match (splitSign cs).2 with
  | '0' :: c :: r => (c :: r).all Char.isDigit
  | _ => false

def splitBase : List Char → Nat × List Char
  | '0' :: 'x' :: r => (16, r)
  | '0' :: 'o' :: r => (8, r)
  | '0' :: 'b' :: r => (2, r)
  | cs => (10, cs)

def natOfBase? (base : Nat) (cs : List Char) : Option Nat := do
  let ds ← cs.mapM Json.hexDigit?
  if ds.isEmpty || !ds.all (· < base) then none else return ds.foldl (fun n d => base * n + d) 0

def integer? (cs : List Char) : Option Int :=
  if isPadded cs then none else
    let (negative, r) := splitSign cs
    let (base, r) := splitBase r
    (natOfBase? base r).map fun n => if negative then -(n : Int) else n

def fitsWord (n : Int) : Bool := -9223372036854775808 ≤ n && n < 18446744073709551616

def fitsTwoWords (n : Int) : Bool :=
  -170141183460469231731687303715884105728 ≤ n && n < 340282366920938463463374607431768211456

/-! ## Real numbers -/

def splitDigits (cs : List Char) : List Char × List Char := (cs.takeWhile Char.isDigit, cs.dropWhile Char.isDigit)

/-- The digits before and behind the point, at least one of them, and the exponent. -/
def readDecimal? (cs : List Char) : Option (List Char × List Char × Int) := do
  let (whole, r) := splitDigits cs
  let (fraction, r) := match r with
    | '.' :: r => splitDigits r
    | r => ([], r)
  if whole.isEmpty && fraction.isEmpty then none
  match ← Json.readExponent r with
  | (exponent, []) => return (whole, fraction, exponent.getD 0)
  | _ => none

/-- The double next to so many digits at a power of ten, if it is finite. -/
def nearest? (ds : List Char) (exponent : Int) : Option Double :=
  let ds := ds.dropWhile (· == '0')
  let top := (ds.length : Int) + exponent
  if ds.isEmpty || top < -330 then some .zero
  else if 310 < top then none
  else
    let (a, b) := Double.scaled (Json.natOfDigits ds) 10 exponent
    let v := Double.nearest a b
    if v.isInfinite then none else some v

def decimal? (negative : Bool) (cs : List Char) : Option Atom := do
  let (whole, fraction, exponent) ← readDecimal? cs
  let v ← nearest? (whole ++ fraction) (exponent - fraction.length)
  return .real (negative && !v.isZero) v

def real? (s : String) : Option Atom :=
  let (negative, r) := splitSign s.toList
  if [".inf", ".Inf", ".INF"].contains (String.ofList r) then some (.infinite negative)
  else if [".nan", ".NaN", ".NAN"].contains s then some .notANumber
  else decimal? negative r

/-! ## Scalars -/

/-- What an integer means, unless it has too many bits for that. -/
def ofInteger? (s : String) : Option (Option Atom) :=
  match integer? s.toList with
  | some n => if fitsWord n then some (some (.integer n)) else if fitsTwoWords n then some none else none
  | none => none

/-- The meaning of a plain scalar without a tag. -/
def ofPlain? (s : String) : Option Atom :=
  if s = "" ∨ isNullWord s then some .null
  else match truth? s, ofInteger? s with
    | some b, _ => some (.bool b)
    | none, some n => n
    | none, none =>
      if isPadded s.toList then some (.text s) else some ((real? s).getD (.text s))

/-- The tag of a kind of scalars. -/
def coreTag (kind : String) : List UInt8 := Text.utf8 ("tag:yaml.org,2002:" ++ kind)

/-- The meaning of a scalar. Some tags ask for a meaning; behind others plain scalars mean
what they do without, if the tag begins with an exclamation mark, and text if not. -/
def ofScalar? (tag : Option (List UInt8)) (style : Style) (s : String) : Option Atom :=
  let own := if style = .plain then ofPlain? s else some (.text s)
  match tag with
  | none => own
  | some t =>
    if t = coreTag "null" then if isNullWord s then some .null else none
    else if t = coreTag "bool" then (truth? s).map .bool
    else if t = coreTag "int" then (ofInteger? s).join
    else if t = coreTag "float" then real? s
    else if loneMark.isPrefixOf t then own
    else some (.text s)

end Atom

end ClusterProbe.Yaml
