/-
  ClusterProbe.Json.Record — structures as JSON members.

  Two kinds of structure are read. A closed one (`members?`) takes its members by
  name, or as an array in the order of its names, and refuses a name given twice. An
  open one (`lastOf`) is an object in which the last member of a name counts, though
  each has to be readable. Members of other names are ignored by both. A member that
  may be left out is absent (`optional`) or has a value of its own then
  (`withDefault`); null counts as absent only where the first is meant.
-/

import ClusterProbe.Json.Basic

namespace ClusterProbe.Json

variable {α β : Type}

/-! ## Values -/

def string? : Json → Option String
  | .string s => some s
  | _ => none

def bool? : Json → Option Bool
  | .bool b => some b
  | _ => none

/-- An integer literal between the bounds. -/
def int? (lo hi : Int) : Json → Option Int
  | .number (.integer n) => if lo ≤ n ∧ n ≤ hi then some n else none
  | _ => none

def int64? (j : Json) : Option Int64 := (int? (-9223372036854775808) 9223372036854775807 j).map Int64.ofInt
def int32? (j : Json) : Option Int32 := (int? (-2147483648) 2147483647 j).map Int32.ofInt

def list? (read : Json → Option α) : Json → Option (List α)
  | .array xs => xs.mapM read
  | _ => none

/-- A map with text keys; the last entry of a key counts. -/
def dict? (read : Json → Option α) : Json → Option (Dict α)
  | .object ms => (ms.mapM fun m => (read m.2).map (m.1, ·)).map Dict.ofList
  | _ => none

def nullable (read : Json → Option α) : Json → Option (Option α)
  | .null => some none
  | j => (read j).map some

/-! ## Closed structures -/

/-- The members that carry the name. -/
def named (k : String) (ms : List (String × Json)) : List (String × Json) := ms.filter (·.1 == k)

def members? (names : List String) : Json → Option (List (String × Json))
  | .object ms => if names.all (fun k => (named k ms).length ≤ 1) then some ms else none
  | .array xs => if xs.length ≤ names.length then some (names.zip xs) else none
  | _ => none

/-- As `members?`, of an object alone. -/
def objectMembers? (names : List String) : Json → Option (List (String × Json))
  | .object ms => members? names (.object ms)
  | _ => none

def required (read : Json → Option α) (k : String) (ms : List (String × Json)) : Option α :=
  (ms.lookup k).bind read

def withDefault (d : α) (read : Json → Option α) (k : String) (ms : List (String × Json)) : Option α :=
  match ms.lookup k with
  | some j => read j
  | none => some d

def optional (read : Json → Option α) (k : String) (ms : List (String × Json)) : Option (Option α) :=
  withDefault none (nullable read) k ms

/-! ## Open structures -/

def openMembers? : Json → Option (List (String × Json))
  | .object ms => some ms
  | _ => none

def lastOf (read : Json → Option α) (k : String) (ms : List (String × Json)) : Option (Option α) :=
  ((named k ms).mapM fun m => nullable read m.2).map fun xs => xs.getLast?.join

def lastOr (d : α) (read : Json → Option α) (k : String) (ms : List (String × Json)) : Option α :=
  (lastOf read k ms).map (·.getD d)

/-! ## Writing -/

/-- An object of the members that are there. -/
def record (ms : List (Option (String × Json))) : Json := .object (ms.filterMap id)

def field (k : String) (j : Json) : Option (String × Json) := some (k, j)

def field? (k : String) (write : α → Json) (x : Option α) : Option (String × Json) :=
  x.map fun a => (k, write a)

def ofList (write : α → Json) (xs : List α) : Json := .array (xs.map write)

def ofDict (write : α → Json) (d : Dict α) : Json := .object (d.entries.map fun e => (e.1, write e.2))

def ofInt64 (n : Int64) : Json := int n.toInt
def ofInt32 (n : Int32) : Json := int n.toInt

/-! ## What is written is read back -/

theorem int64?_ofInt64 (n : Int64) : int64? (ofInt64 n) = some n := by
  have h := n.le_toInt
  have h' := n.toInt_lt
  simp [int64?, ofInt64, int, int?]
  omega

theorem int32?_ofInt32 (n : Int32) : int32? (ofInt32 n) = some n := by
  have h := n.le_toInt
  have h' := n.toInt_lt
  simp [int32?, ofInt32, int, int?]
  omega

theorem list?_ofList {read : Json → Option α} {write : α → Json} (h : ∀ a, read (write a) = some a)
    (xs : List α) : list? read (ofList write xs) = some xs := by
  show (xs.map write).mapM read = some xs
  induction xs with
  | nil => rfl
  | cons a r ih => simp [h, ih]

theorem dict?_ofDict {read : Json → Option α} {write : α → Json} (h : ∀ a, read (write a) = some a)
    (d : Dict α) : dict? read (ofDict write d) = some d := by
  have : ∀ es : List (String × α),
      (es.map fun e => (e.1, write e.2)).mapM (fun m => (read m.2).map (m.1, ·)) = some es := by
    intro es
    induction es with
    | nil => rfl
    | cons e r ih => simp [h, ih]
  simp only [dict?, ofDict, this, Option.map_some, Dict.ofList_entries]

end ClusterProbe.Json
