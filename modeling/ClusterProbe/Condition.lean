/-
  ClusterProbe.Condition — status conditions as resources report them.

  A condition is true, false or unknown, and every status text but `True` and `False`
  means unknown. Of several conditions of one type the first counts (`find?`). A type
  is unmet when its first condition is not true, or when there is none; the text of
  `unmet?` then tells which.
-/

import ClusterProbe.Json.Record

namespace ClusterProbe

inductive Tristate where
  | yes
  | no
  | unknown
  deriving DecidableEq, Repr

namespace Tristate

def ofText (s : String) : Tristate :=
  if s = "True" then yes else if s = "False" then no else unknown

def text : Tristate → String
  | yes => "True"
  | no => "False"
  | unknown => "Unknown"

@[simp] theorem ofText_text (t : Tristate) : ofText t.text = t := by cases t <;> decide

end Tristate

structure Condition where
  type : String
  status : Tristate
  reason : Option String
  message : Option String
  lastTransitionTime : Option String
  observedGeneration : Option Int64
  deriving DecidableEq, Repr

namespace Condition

def isTrue (c : Condition) : Bool := c.status == .yes

def messageOrEmpty (c : Condition) : String := c.message.getD ""

/-- The first condition of the type. -/
def find? (cs : List Condition) (type : String) : Option Condition := List.find? (·.type == type) cs

/-- Why the type is not met; nothing when its first condition is true. -/
def unmet? (cs : List Condition) (type : String) : Option String :=
  match find? cs type with
  | some c =>
    if c.isTrue then none
    else some (type ++ " is " ++ c.status.text ++ ", last recorded status message: " ++ c.messageOrEmpty)
  | none => some ("no " ++ type ++ " condition reported")

/-! ## Wire form -/

def toJson (c : Condition) : Json :=
  Json.record
    [Json.field "type" (.string c.type),
     Json.field "status" (.string c.status.text),
     Json.field? "reason" .string c.reason,
     Json.field? "message" .string c.message,
     Json.field? "lastTransitionTime" .string c.lastTransitionTime,
     Json.field? "observedGeneration" Json.ofInt64 c.observedGeneration]

def ofJson? (j : Json) : Option Condition := do
  let ms ← Json.members?
    ["type", "status", "reason", "message", "lastTransitionTime", "observedGeneration"] j
  return {
    type := ← Json.required Json.string? "type" ms
    status := .ofText (← Json.required Json.string? "status" ms)
    reason := ← Json.optional Json.string? "reason" ms
    message := ← Json.optional Json.string? "message" ms
    lastTransitionTime := ← Json.optional Json.string? "lastTransitionTime" ms
    observedGeneration := ← Json.optional Json.int64? "observedGeneration" ms }

end Condition

end ClusterProbe
