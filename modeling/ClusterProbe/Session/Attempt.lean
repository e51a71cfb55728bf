/-
  ClusterProbe.Session.Attempt — one look at the surroundings, as data.

  An attempt waits, asks, and ends in a value; it cannot see the deadline it runs
  under. `run` carries it out: an attempt that would need longer is cut off when the
  deadline is reached. A request or a probe that starts with no time left is cut off
  before anyone learns of it, and a lookup before it finds anything; waiting for no
  time at all always succeeds.
-/

import ClusterProbe.Session.World

namespace ClusterProbe

inductive Attempt (α : Type) where
  | done (a : α)
  | wait (ticks : Nat) (next : Attempt α)
  | never
  | request (q : Request) (next : Reply → Attempt α)
  | lookup (host : String) (port : Nat) (next : Lookup → Attempt α)
  /-- A GET request by the HTTP client, with a patience of its own. -/
  | probe (url : Http.Url) (patience : Duration) (next : HttpReply → Attempt α)

namespace Attempt

variable {α β : Type}

def map (f : α → β) : Attempt α → Attempt β
  | done a => done (f a)
  | wait t next => wait t (next.map f)
  | never => never
  | request q next => request q fun r => (next r).map f
  | lookup h p next => lookup h p fun r => (next r).map f
  | probe u p next => probe u p fun r => (next r).map f

/-- What comes after so many ticks, if the deadline does not come before. -/
def inTime (deadline ticks : Nat) (next : World → Option α × World) (w : World) : Option α × World :=
  if w.clock + ticks ≤ deadline then next (w.pass ticks) else (none, w.advanceTo deadline)

/-- Carries the attempt out until `deadline`, which is not in the past. Nothing means
that it was cut off there. -/
def run (deadline : Nat) : Attempt α → World → Option α × World
  | done a, w => (some a, w)
  | wait t next, w => inTime deadline (min t World.longestWait) (next.run deadline) w
  | never, w => (none, w.advanceTo deadline)
  | request q next, w =>
    if deadline ≤ w.clock then (none, w)
    else
      let (x, w) := w.exchange q
      inTime deadline (min x.delay World.longestWait) ((next x.reply).run deadline) w
  | lookup h p next, w =>
    let (x, w) := w.lookup h p
    if deadline ≤ w.clock then (none, w) else inTime deadline x.delay ((next x.result).run deadline) w
  | probe u p next, w =>
    if deadline ≤ w.clock then (none, w)
    else
      let (x, w) := w.probe u p
      inTime deadline x.delay ((next x.result).run deadline) w

end Attempt

end ClusterProbe
