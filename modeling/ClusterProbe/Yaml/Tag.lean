/-
  ClusterProbe.Yaml.Tag — tags and directives.

  A tag is a handle and a suffix. Written between angle brackets it has no handle, and a
  lone `!` has none either: it is a suffix. Suffixes hold the characters of URIs, others
  as octets behind percent signs. These look like UTF-8 but need not be text, so tags are
  bytes, up to the first zero. A directive starts a line with a percent sign and tells the
  version of YAML, or what a handle means.
-/

import ClusterProbe.Json.Reader
import ClusterProbe.Text.Utf8
import ClusterProbe.Yaml.Cursor

namespace ClusterProbe.Yaml

/-! ## Suffixes -/

def uriSigns : List Char :=
  [';', '/', '?', ':', '@', '&', '=', '+', '$', '.', '!', '~', '*', '\'', '(', ')']

/-- A character that stands for itself; `isOpen` tells whether those that flow
collections need may do so. -/
def isUriChar (isOpen : Bool) (c : Char) : Bool :=
  isNameChar c || uriSigns.contains c || (isOpen && [',', '[', ']'].contains c)

def octet? : List Char → Option UInt8
  | '%' :: a :: b :: _ => do return UInt8.ofNat (16 * (← Json.hexDigit? a) + (← Json.hexDigit? b))
  | _ => none

/-- The length of a character by its first octet. -/
def octetCount? (b : UInt8) : Option Nat :=
  if b < 0x80 then some 1
  else if b < 0xC0 then none
  else if b < 0xE0 then some 2
  else if b < 0xF0 then some 3
  else if b < 0xF8 then some 4
  else none

/-- A character written as octets; their number and their highest bits are right. -/
def readOctets (c : Cursor) : Option (List UInt8 × Cursor) := do
  let first ← octet? c.rest
  let n ← octetCount? first
  let tail ← (List.range (n - 1)).mapM fun i => octet? (c.rest.drop (3 * (i + 1)))
  if tail.all Text.isTail then return (first :: tail, c.skip (3 * n)) else none

def uriFrom (isOpen : Bool) : Nat → List UInt8 → Cursor → Option (List UInt8 × Cursor)
  | 0, _, _ => none
  | n + 1, done, c =>
    if startsWith (· == '%') c.rest then
      match readOctets c with
      | some (bs, c) => uriFrom isOpen n (done ++ bs) c
      | none => none
    else
      let (cs, next) := c.span (isUriChar isOpen)
      if cs.isEmpty then some (done, c) else uriFrom isOpen n (done ++ Text.utf8 (String.ofList cs)) next

def readUri (isOpen : Bool) (c : Cursor) : Option (List UInt8 × Cursor) := uriFrom isOpen c.fuel [] c

def untilZero (bs : List UInt8) : List UInt8 := bs.takeWhile (· != 0)

/-! ## Handles -/

/-- A handle: a name between exclamation marks, or without the second one a suffix so far. -/
def readHandle (c : Cursor) : Option (List Char × Cursor) :=
  if startsWith (· == '!') c.rest then
    let (name, c) := c.step.span isNameChar
    if startsWith (· == '!') c.rest then some ('!' :: name ++ ['!'], c.step) else some ('!' :: name, c)
  else none

def isHandle (handle : List Char) : Bool := 1 < handle.length && handle.getLast? == some '!'

/-! ## Tags -/

/-- The tag that is only an exclamation mark. -/
def loneMark : List UInt8 := Text.utf8 "!"

/-- A tag in its three forms, but not what ends it. -/
def readTagParts (c : Cursor) : Option ((String × List UInt8) × Cursor) :=
  if startsWith (· == '<') c.step.rest then do
    let (uri, c) ← readUri true (c.skip 2)
    if uri.isEmpty || !startsWith (· == '>') c.rest then none
    return (("", untilZero uri), c.step)
  else do
    let (handle, c) ← readHandle c
    let (uri, c) ← readUri false c
    if isHandle handle then
      if uri.isEmpty then none else return ((String.ofList handle, untilZero uri), c)
    else
      let suffix := untilZero (Text.utf8 (String.ofList handle.tail) ++ uri)
      return (if suffix.isEmpty then ("", loneMark) else ("!", suffix), c)

/-- The handle and the suffix of a tag whose exclamation mark comes next. -/
def readTag (inFlow : Bool) (c : Cursor) : Option ((String × List UInt8) × Cursor) := do
  let (tag, c) ← readTagParts c
  if endsWord c.rest || (inFlow && startsWith (· == ',') c.rest) then return (tag, c) else none

/-! ## Directives -/

inductive Directive where
  | version (major minor : Nat)
  | handle (handle : String) (meaning : List UInt8)
  deriving DecidableEq, Repr

/-- A number of at most nine digits. -/
def readVersionNumber (c : Cursor) : Option (Nat × Cursor) :=
  let (digits, c) := c.span Char.isDigit
  if digits.isEmpty || 9 < digits.length then none else some (Json.natOfDigits digits, c)

def readVersion (c : Cursor) : Option (Directive × Cursor) := do
  let (major, c) ← readVersionNumber c
  if !startsWith (· == '.') c.rest then none
  let (minor, c) ← readVersionNumber c.step
  return (.version major minor, c)

def readMeaning (c : Cursor) : Option (Directive × Cursor) := do
  let (handle, c) ← readHandle c
  if !(handle == ['!'] || isHandle handle) || !startsWith isBlank c.rest then none
  let (uri, c) ← readUri true c.skipBlanks
  if uri.isEmpty || !endsWord c.rest then none
  return (.handle (String.ofList handle) (untilZero uri), c)

/-- A directive whose percent sign comes next, and the rest of its line. -/
def readDirective (c : Cursor) : Option (Directive × Cursor) := do
  let (name, c) := c.step.span isNameChar
  if !endsWord c.rest then none
  let (directive, c) ← match String.ofList name with
    | "YAML" => readVersion c.skipBlanks
    | "TAG" => readMeaning c.skipBlanks
    | _ => none
  return (directive, ← c.finishLine)

end ClusterProbe.Yaml
