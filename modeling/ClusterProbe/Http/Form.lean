/-
  ClusterProbe.Http.Form — names and values in the query of a request.

  Pairs are joined by `&`, name and value by `=`; letters, digits and four signs stand
  for themselves, a space is a plus sign, and all else is percent-encoded. Reading
  skips empty pairs, takes a pair without `=` for a name alone, and puts the mark of a
  lost character where bytes are not UTF-8.
-/

import ClusterProbe.Http.Percent
import ClusterProbe.Text.Parts

namespace ClusterProbe.Http.Form

/-! ## Writing -/

def isPlain (c : Char) : Bool := c.isAlphanum || ['*', '-', '.', '_'].contains c

def encodeText (s : String) : List Char :=
  s.toList.flatMap fun c => if c = ' ' then ['+'] else if isPlain c then [c] else Percent.encodeChar c

def encodePair (p : String × String) : List Char := encodeText p.1 ++ '=' :: encodeText p.2

/-- Pairs, with a separator before each of them. -/
def encode (ps : List (String × String)) : String := String.ofList (ps.flatMap fun p => '&' :: encodePair p)

/-! ## Reading -/

def decodeText (cs : List Char) : String :=
  Text.decodeLossy (Percent.decode (Text.utf8 (String.ofList (cs.map fun c => if c = '+' then ' ' else c))))

def decodePair (cs : List Char) : String × String :=
  (decodeText (cs.takeWhile (· != '=')), decodeText ((cs.dropWhile (· != '=')).drop 1))

def decode (s : String) : List (String × String) :=
  ((Text.splitAt '&' s.toList).filter (!·.isEmpty)).map decodePair

end ClusterProbe.Http.Form
