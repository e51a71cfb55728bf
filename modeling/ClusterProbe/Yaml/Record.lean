/-
  ClusterProbe.Yaml.Record — structures read from YAML.

  A structure is a mapping whose keys are text. A known name that stands twice is a
  fault, and members of other names are passed over unread. A member that may be left
  out may be null too.
-/

import ClusterProbe.Yaml.Source

namespace ClusterProbe.Yaml

variable {σ α : Type} [Source σ]

def members (names : List String) (x : σ) : Reading (List (String × σ)) := do
  let ms ← (← Source.entries x).mapM fun e => do return (← Source.text e.1, e.2)
  if names.all fun k => (ms.filter (·.1 == k)).length ≤ 1 then return ms else failure

def required (read : σ → Reading α) (k : String) (ms : List (String × σ)) : Reading α := do
  read (← fromOption (ms.lookup k))

def withDefault (d : α) (read : σ → Reading α) (k : String) (ms : List (String × σ)) : Reading α :=
  match ms.lookup k with
  | some x => read x
  | none => return d

def nullable (read : σ → Reading α) (x : σ) : Reading (Option α) := do
  match ← Source.present? x with
  | some x => return some (← read x)
  | none => return none

def optional (read : σ → Reading α) : String → List (String × σ) → Reading (Option α) :=
  withDefault none (nullable read)

def list (read : σ → Reading α) (x : σ) : Reading (List α) := do (← Source.items x).mapM read

/-- A map with text keys; the last entry of a key comes first. -/
def table (x : σ) : Reading (List (String × String)) := do
  let es ← (← Source.entries x).mapM fun e => do return (← Source.text e.1, ← Source.text e.2)
  return es.reverse

end ClusterProbe.Yaml
