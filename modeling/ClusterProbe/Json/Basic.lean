/-
  ClusterProbe.Json.Basic — JSON values.

  An object is the list of its members as they were written: order and repetition
  stay visible, because a structure refuses a member given twice. A number remembers
  whether it was written as an integer of at most 64 bits; every other number is a
  double, and never an integer, whatever its value. Text with half of a surrogate pair
  in it, and a number beyond all doubles, are JSON but stand for nothing: they can be
  passed over, and never read (`illegible`).
-/

import ClusterProbe.Dict
import ClusterProbe.Double

namespace ClusterProbe

inductive Number where
  | integer (n : Int)
  | real (negative : Bool) (magnitude : Double)
  deriving DecidableEq, Repr

inductive Json where
  | null
  | bool (b : Bool)
  | number (n : Number)
  | string (s : String)
  | array (items : List Json)
  | object (members : List (String × Json))
  /-- A number beyond all doubles; a string, or an object with a name, that holds half
  of a surrogate pair. -/
  | illegible
  deriving Repr

instance : Inhabited Json := ⟨.null⟩

namespace Json

def int (n : Int) : Json := .number (.integer n)

/-- The value of a member; the first one of a repeated name. -/
def get? (k : String) : Json → Option Json
  | .object ms => ms.lookup k
  | _ => none

/-! ## What a reader of untyped values checks -/

mutual
/-- Arrays and objects around the innermost value. -/
def depth : Json → Nat
  | .array xs => depthItems xs + 1
  | .object ms => depthMembers ms + 1
  | _ => 0

def depthItems : List Json → Nat
  | [] => 0
  | x :: r => max x.depth (depthItems r)

def depthMembers : List (String × Json) → Nat
  | [] => 0
  | (_, x) :: r => max x.depth (depthMembers r)
end

mutual
/-- Everything in the value stands for something. -/
def isLegible : Json → Bool
  | .array xs => isLegibleItems xs
  | .object ms => isLegibleMembers ms
  | .illegible => false
  | _ => true

def isLegibleItems : List Json → Bool
  | [] => true
  | x :: r => x.isLegible && isLegibleItems r

def isLegibleMembers : List (String × Json) → Bool
  | [] => true
  | (_, x) :: r => x.isLegible && isLegibleMembers r
end

/-- A value that can be kept without a type of its own: legible, and nested below 128. -/
def isPlain (j : Json) : Bool := j.depth < 128 && j.isLegible

mutual
/-- Members in key order, the last of a repeated name, at every depth. -/
def canonical : Json → Json
  | .array xs => .array (canonicalItems xs)
  | .object ms => .object (Dict.ofList (canonicalMembers ms)).entries
  | j => j

def canonicalItems : List Json → List Json
  | [] => []
  | x :: r => x.canonical :: canonicalItems r

def canonicalMembers : List (String × Json) → List (String × Json)
  | [] => []
  | (k, x) :: r => (k, x.canonical) :: canonicalMembers r
end

end Json

end ClusterProbe
