/-
  ClusterProbe.Json.Printer — JSON text without blanks.

  Strings escape the quote, the backslash and control characters, with a letter
  where JSON has one. A double is written with the fewest digits that stand for it, and
  keeps a point or an exponent, so that it never reads as an integer: positional up to
  16 places before the point and 5 after it, scientific beyond, with the sign of the
  exponent. What stands for nothing is written as half of a surrogate pair.
-/

import ClusterProbe.Json.Basic
import ClusterProbe.Json.Shortest

namespace ClusterProbe

namespace Number

/-- The significant digits of `digits · 10 ^ exponent`, and the exponent left. -/
def significant (digits : Nat) (exponent : Int) : List Char × Int :=
  let ds := Nat.toDigits 10 digits
  let kept := (ds.reverse.dropWhile (· == '0')).reverse
  (kept, exponent + (ds.length - kept.length : Nat))

/-- Text of a decimal that is not negative. -/
def decimalText (digits : Nat) (exponent : Int) : List Char :=
  if digits = 0 then ['0', '.', '0'] else
  let (ds, k) := significant digits exponent
  let point := ds.length + k
  if 0 ≤ k ∧ point ≤ 16 then ds ++ List.replicate k.toNat '0' ++ ['.', '0']
  else if 0 < point ∧ point ≤ 16 then ds.take point.toNat ++ '.' :: ds.drop point.toNat
  else if -5 < point ∧ point ≤ 0 then ['0', '.'] ++ List.replicate (-point).toNat '0' ++ ds
  else
    let mantissa := match ds with
      | [d] => [d]
      | d :: r => d :: '.' :: r
      | [] => []
    mantissa ++ ['e', if 0 < point then '+' else '-'] ++ Nat.toDigits 10 (point - 1).natAbs

def text : Number → String
  | .integer n => toString n
  | .real negative magnitude =>
    let (digits, exponent) := magnitude.shortest
    (if negative then "-" else "") ++ String.ofList (decimalText digits exponent)

end Number

namespace Json

def escapeChar (c : Char) : List Char :=
  if c = '"' then ['\\', '"']
  else if c = '\\' then ['\\', '\\']
  else if c = '\n' then ['\\', 'n']
  else if c = '\r' then ['\\', 'r']
  else if c = '\t' then ['\\', 't']
  else if c.toNat = 8 then ['\\', 'b']
  else if c.toNat = 12 then ['\\', 'f']
  else if c.toNat < 0x20 then
    ['\\', 'u', '0', '0', Nat.digitChar (c.toNat / 16), Nat.digitChar (c.toNat % 16)]
  else [c]

def stringText (s : String) : String :=
  String.ofList ('"' :: s.toList.flatMap escapeChar ++ ['"'])

mutual
def text : Json → String
  | .null => "null"
  | .bool true => "true"
  | .bool false => "false"
  | .number n => n.text
  | .string s => stringText s
  | .array xs => "[" ++ ",".intercalate (textItems xs) ++ "]"
  | .object ms => "\x7b" ++ ",".intercalate (textMembers ms) ++ "\x7d"
  | .illegible => "\"\\ud800\""

def textItems : List Json → List String
  | [] => []
  | x :: r => x.text :: textItems r

def textMembers : List (String × Json) → List String
  | [] => []
  | (k, x) :: r => (stringText k ++ ":" ++ x.text) :: textMembers r
end

end Json

end ClusterProbe
