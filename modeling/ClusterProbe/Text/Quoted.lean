/-
  ClusterProbe.Text.Quoted — text shown between double quotes.

  A quote and a backslash get a backslash; newline, carriage return, tab and NUL have
  a letter of their own; every other character without a glyph of its own is written
  as its code point in hexadecimal between braces. All else stands for itself, the
  single quote included.
-/

import ClusterProbe.Text.Invisible

namespace ClusterProbe.Text

def escapeChar (c : Char) : List Char :=
  if c = '"' then ['\\', '"']
  else if c = '\\' then ['\\', '\\']
  else if c = '\n' then ['\\', 'n']
  else if c = '\r' then ['\\', 'r']
  else if c = '\t' then ['\\', 't']
  else if c.toNat = 0 then ['\\', '0']
  else if isInvisible c then ['\\', 'u', '\x7b'] ++ Nat.toDigits 16 c.toNat ++ ['\x7d']
  else [c]

def quote (s : String) : String :=
  String.ofList ('"' :: s.toList.flatMap escapeChar ++ ['"'])

/-- The quoted texts of a list, between brackets. -/
def quoteAll (ss : List String) : String :=
  "[" ++ ", ".intercalate (ss.map quote) ++ "]"

end ClusterProbe.Text
