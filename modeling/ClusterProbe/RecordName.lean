/-
  ClusterProbe.RecordName — the DNS record that belongs to a gateway.

  The record is named `gateway-hash-wildcard` and lives in the gateway's namespace.
  The hash is the 32-bit FNV-1a hash of the domain of the first listener, in decimal,
  respelled in letters and digits that form no words. The domain ends in a dot; a
  gateway without a hostname has the empty one.
-/

import ClusterProbe.Error
import ClusterProbe.Resource.Gateway

namespace ClusterProbe

namespace RecordName

def offsetBasis : UInt32 := 0x811c9dc5
def fnvPrime : UInt32 := 0x01000193

def fnvStep (hash : UInt32) (b : UInt8) : UInt32 := (hash ^^^ b.toUInt32) * fnvPrime

def fnv1a (bs : List UInt8) : UInt32 := bs.foldl fnvStep offsetBasis

/-- No vowels, and no digits that look like them. -/
def alphabet : List Char := "bcdfghjklmnpqrstvwxz2456789".toList

def respellChar (c : Char) : Char := alphabet.getD (c.toNat % alphabet.length) 'b'

/-- The part of the record's name that stands for the domain. -/
def hash (domain : String) : String :=
  String.ofList ((Nat.toDigits 10 (fnv1a (Text.utf8 domain)).toNat).map respellChar)

end RecordName

namespace Gateway

/-- The domain of the first listener, fully qualified. -/
def listenerDomain (g : Gateway) : String :=
  match g.firstListenerHostname? with
  | some h => if h.toList.getLast? = some '.' then h else h ++ "."
  | none => ""

/-- Name and namespace of a gateway that has both. -/
def reference (g : Gateway) : Except ProbeError (String × String) :=
  match g.metadata.name, g.metadata.namespace with
  | some name, some ns => .ok (name, ns)
  | _, _ => .error (.precondition "gateway has no name or namespace")

/-- Namespace and name of the gateway's DNS record. -/
def recordName (g : Gateway) : Except ProbeError (String × String) :=
  match g.reference with
  | .ok (name, ns) => .ok (ns, name ++ "-" ++ RecordName.hash g.listenerDomain ++ "-wildcard")
  | .error e => .error e

end Gateway

end ClusterProbe
