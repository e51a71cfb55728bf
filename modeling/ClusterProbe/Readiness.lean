/-
  ClusterProbe.Readiness — what one look at the cluster says: ready, with what was
  found, or pending, with what was observed instead.
-/

namespace ClusterProbe

inductive Readiness (α : Type) where
  | ready (found : α)
  | pending (observed : String)
  deriving DecidableEq, Repr

namespace Readiness

variable {α β : Type}

def map (f : α → β) : Readiness α → Readiness β
  | ready a => ready (f a)
  | pending m => pending m

/-- Ready unless there is something in the way. -/
def ofObstacle : Option String → Readiness Unit
  | none => ready ()
  | some m => pending m

@[simp] theorem ofObstacle_eq_ready {o : Option String} : ofObstacle o = ready () ↔ o = none := by
  cases o <;> simp [ofObstacle]

end Readiness

end ClusterProbe
