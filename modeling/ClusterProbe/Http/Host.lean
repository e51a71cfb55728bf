/-
  ClusterProbe.Http.Host — hosts of URLs: names and addresses.

  A host in brackets is an IPv6 address. Any other host is first decoded where it is
  percent-encoded and brought to ASCII; it is an IPv4 address when its last label is a
  number, in which case it has to be a correct one: up to four numbers, decimal, octal
  after `0` or hexadecimal after `0x`, the last of which fills the bytes that are left.

  An IPv6 address is written with its first longest run of zero groups left out, if
  that run has two groups or more.
-/

import ClusterProbe.Http.Domain
import ClusterProbe.Http.Percent

namespace ClusterProbe.Http

inductive HostFault where
  | empty
  | invalidName
  | invalidIpv4
  | invalidIpv6
  deriving DecidableEq, Repr

namespace HostFault

def message : HostFault → String
  | empty => "empty host"
  | invalidName => "invalid international domain name"
  | invalidIpv4 => "invalid IPv4 address"
  | invalidIpv6 => "invalid IPv6 address"

end HostFault

inductive Host where
  | name (labels : String)
  | ipv4 (value : Nat)
  | ipv6 (groups : List Nat)
  deriving DecidableEq, Repr

/-! ## IPv4 -/

namespace Ipv4

/-- A number of an address, whatever its size. -/
def part? : List Char → Option Nat
  | [] => none
  | '0' :: 'x' :: r => numeral? 16 r
  | '0' :: 'X' :: r => numeral? 16 r
  | ['0'] => some 0
  | '0' :: r => numeral? 8 r
  | cs => numeral? 10 cs

/-- The labels of a name without the empty one after a final dot. -/
def labels (cs : List Char) : List (List Char) :=
  let ps := Text.splitAt '.' cs
  if 1 < ps.length ∧ ps.getLast? = some [] then ps.dropLast else ps

/-- The last label is a number, so that the name has to be an address. -/
def endsInNumber (cs : List Char) : Bool :=
  match (labels cs).getLast? with
  | some l => (!l.isEmpty && l.all Char.isDigit) || (part? l).isSome
  | none => false

/-- What the first, second and third byte of an address count. -/
def weights : List Nat := [16777216, 65536, 256]

/-- What is left for the last number after so many bytes. -/
def room (bytes : Nat) : Nat := (4294967296 :: weights).getD bytes 0

def parse? (cs : List Char) : Option Nat := do
  let ns ← (labels cs).mapM part?
  let last ← ns.getLast?
  let front := ns.dropLast
  if room front.length ≤ last ∨ front.any (255 < ·) then none
  return (List.zipWith (· * ·) front weights).foldl (· + ·) last

/-- Four decimal numbers without leading zeros. -/
def dotted? (cs : List Char) : Option Nat := do
  let octet (p : List Char) : Option Nat := do
    if p.isEmpty ∨ 3 < p.length ∨ (p.head? = some '0' ∧ 1 < p.length) then none
    let n ← numeral? 10 p
    if 255 < n then none
    return n
  match ← (Text.splitAt '.' cs).mapM octet with
  | [a, b, c, d] => return a * 16777216 + b * 65536 + c * 256 + d
  | _ => none

def text (n : Nat) : String :=
  ".".intercalate ([n / 16777216, n / 65536 % 256, n / 256 % 256, n % 256].map toString)

end Ipv4

/-! ## IPv6 -/

namespace Ipv6

def group? (cs : List Char) : Option Nat :=
  if cs.isEmpty ∨ 4 < cs.length then none else numeral? 16 cs

/-- Groups between colons; the last one may be an IPv4 address, which fills two. -/
def groups? : List (List Char) → Option (List Nat)
  | [] => some []
  | [p] =>
    match group? p with
    | some g => some [g]
    | none => (Ipv4.dotted? p).map fun n => [n / 65536, n % 65536]
  | p :: ps => do return (← group? p) :: (← groups? ps)

/-- What stands before and after the first `::`. -/
def cutAtGap (done : List Char) : List Char → Option (List Char × List Char)
  | ':' :: ':' :: r => some (done.reverse, r)
  | c :: r => cutAtGap (c :: done) r
  | [] => none

/-- A side of the gap; an empty one has no groups. -/
def side? (cs : List Char) : Option (List Nat) :=
  if cs.isEmpty then some [] else groups? (Text.splitAt ':' cs)

def parse? (cs : List Char) : Option (List Nat) :=
  match cutAtGap [] cs with
  | none => do
    let gs ← groups? (Text.splitAt ':' cs)
    if gs.length = 8 then some gs else none
  | some (l, r) => do
    if '.' ∈ l then none
    let front ← side? l
    let back ← side? r
    if 7 < front.length + back.length then none
    return front ++ List.replicate (8 - front.length - back.length) 0 ++ back

/-- The place and the length of the first longest run of zeros. -/
def longestGap (gs : List Nat) : Nat × Nat :=
  (List.range gs.length).foldl (fun best i =>
    let run := ((gs.drop i).takeWhile (· == 0)).length
    if best.2 < run then (i, run) else best) (0, 0)

def groupsText (gs : List Nat) : String :=
  ":".intercalate (gs.map fun g => String.ofList (Nat.toDigits 16 g))

def text (gs : List Nat) : String :=
  let (place, run) := longestGap gs
  if run < 2 then groupsText gs
  else groupsText (gs.take place) ++ "::" ++ groupsText (gs.drop (place + run))

end Ipv6

/-! ## Hosts -/

namespace Host

def parse (cs : List Char) : Except HostFault Host :=
  match cs with
  | [] => .error .empty
  | '[' :: r =>
    if r.getLast? = some ']' then
      match Ipv6.parse? r.dropLast with
      | some gs => .ok (.ipv6 gs)
      | none => .error .invalidIpv6
    else .error .invalidIpv6
  | cs =>
    match Text.decode (Percent.decode (Text.utf8 (String.ofList cs))) with
    | .error _ => .error .invalidName
    | .ok s =>
      match Domain.toAscii? s.toList with
      | none => .error .invalidName
      | some [] => .error .empty
      | some cs =>
        if Ipv4.endsInNumber cs then
          match Ipv4.parse? cs with
          | some n => .ok (.ipv4 n)
          | none => .error .invalidIpv4
        else .ok (.name (String.ofList cs))

def text : Host → String
  | name labels => labels
  | ipv4 n => Ipv4.text n
  | ipv6 gs => "[" ++ Ipv6.text gs ++ "]"

end Host

end ClusterProbe.Http
