/-
  ClusterProbe.Http.ServerName — names that a server's certificate may be asked for.

  A name is an address, or labels of letters, digits, hyphens and underscores between
  dots, perhaps with a dot at the end. No label is empty, begins or ends with a hyphen or
  is too long, and the last one is no number. Nothing is decoded.
-/

import ClusterProbe.Http.Host

namespace ClusterProbe.Http.ServerName

def longestName : Nat := 253

def longestLabel : Nat := 63

def isLabelChar (c : Char) : Bool := c.isAlphanum || c == '-' || c == '_'

def isLabel (l : List Char) : Bool :=
  !l.isEmpty && l.length ≤ longestLabel && l.all isLabelChar && l.head? != some '-' && l.getLast? != some '-'

def isDomain (cs : List Char) : Bool :=
  let ls := Ipv4.labels cs
  cs.length ≤ longestName && ls.all isLabel && !(ls.getLast?.getD []).all Char.isDigit

def isValid (s : String) : Bool :=
  let cs := s.toList
  isDomain cs || (Ipv4.dotted? cs).isSome || (Ipv6.parse? cs).isSome

end ClusterProbe.Http.ServerName
