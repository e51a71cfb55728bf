/-
  ClusterProbe.Session.Poll — looking again and again until something is ready.

  A poll makes its first attempt at once and the next one an interval after the end
  of the one before, until an attempt finds what it looks for, fails, or the timeout
  is over. The timeout is looked at in two places: an attempt still running then is
  cut off, and after one that found nothing the poll ends if the time is up. The
  pause between attempts does not end early for it, so an attempt may begin with no
  time left. Attempts are counted in a word of 32 bits. The error of a poll that ran
  out of time carries that count and what was observed last.
-/

import ClusterProbe.Error
import ClusterProbe.Readiness
import ClusterProbe.Session.Attempt

namespace ClusterProbe

/-- A run of checks: it changes its surroundings and ends in a value or an error. -/
abbrev Session := ExceptT ProbeError (StateM World)

namespace Session

variable {α : Type}

def log (level : Level) (text : String) : Session Unit := fun w => (.ok (), w.log level text)

def debug (text : String) : Session Unit := log .debug text

def info (text : String) : Session Unit := log .info text

end Session

/-- How often to look, and for how long. -/
structure Budget where
  interval : Duration
  timeout : Duration
  deriving DecidableEq, Repr

namespace Budget

def ofSecs (interval timeout : Nat) : Budget := ⟨.ofSecs interval, .ofSecs timeout⟩

/-- Attempts that are enough wherever each takes time or is followed by a pause. -/
def rounds (b : Budget) : Nat := b.timeout.ticks + 2

end Budget

namespace Poll

variable {α : Type}

/-- One kind of look per number of the attempt, counted from 1. -/
abbrev Check (α : Type) := Nat → Attempt (Except ProbeError (Readiness α))

def notLooked : String := "no attempt completed"

/-- The number of an attempt as it is told: a word of 32 bits, which begins again at 0. -/
def counted (n : Nat) : UInt32 := UInt32.ofNat n

theorem toNat_counted {n : Nat} (h : n < 4294967296) : (counted n).toNat = n := UInt32.toNat_ofNat_of_lt' h

variable (what : String) (b : Budget) (check : Check α) (start : Nat)

/-- Attempt `n`, begun now, of a poll that began at `start`; it is cut off when the time is up. -/
def look (n : Nat) (w : World) : Option (Except ProbeError (Readiness α)) × World :=
  (check n).run (w.clock + w.timer.given (start + b.timeout.ticks - w.clock)) (w.record (.attempt w.clock what))

/-- The poll from attempt `n` on, `start` being the time of its first one and `last`
what was observed last; at most as many attempts as the counter says. -/
def loop : Nat → Nat → String → World → Except ProbeError α × World
  | 0, n, last, w => (.error (.timeout what b.timeout (counted (n - 1)) last), w)
  | rounds + 1, n, last, w =>
    match look what b check start n w with
    | (none, w) =>
      (.error (.timeout what b.timeout (counted n) last),
        w.log .debug ("Attempt " ++ toString (counted n) ++ " for " ++ what ++ " still running at the deadline"))
    | (some (.error e), w) => (.error e, w)
    | (some (.ok (.ready a)), w) =>
      (.ok a, w.log .info (what ++ " is ready after " ++ toString (counted n) ++ " attempt(s)"))
    | (some (.ok (.pending m)), w) =>
      let w := w.log .debug ("Waiting for " ++ what ++ ": " ++ m ++ ", retrying...")
      if start + b.timeout.ticks ≤ w.clock then (.error (.timeout what b.timeout (counted n) m), w)
      else loop rounds (n + 1) m (w.advance b.interval.ticks)

section Rounds

variable {what b check start} {n : Nat} {w w' : World}

theorem loop_of_cut (h : look what b check start n w = (none, w')) (rounds : Nat) (last : String) :
    loop what b check start (rounds + 1) n last w = (.error (.timeout what b.timeout (counted n) last),
      w'.log .debug ("Attempt " ++ toString (counted n) ++ " for " ++ what ++ " still running at the deadline")) := by
  rw [loop, h]

theorem loop_of_raised {e : ProbeError} (h : look what b check start n w = (some (.error e), w')) (rounds : Nat)
    (last : String) : loop what b check start (rounds + 1) n last w = (.error e, w') := by
  rw [loop, h]

theorem loop_of_ready {a : α} (h : look what b check start n w = (some (.ok (.ready a)), w')) (rounds : Nat)
    (last : String) : loop what b check start (rounds + 1) n last w =
      (.ok a, w'.log .info (what ++ " is ready after " ++ toString (counted n) ++ " attempt(s)")) := by
  rw [loop, h]

variable {m : String} (h : look what b check start n w = (some (.ok (.pending m)), w'))
include h

theorem loop_of_late (htime : start + b.timeout.ticks ≤ w'.clock) (rounds : Nat) (last : String) :
    loop what b check start (rounds + 1) n last w = (.error (.timeout what b.timeout (counted n) m),
      w'.log .debug ("Waiting for " ++ what ++ ": " ++ m ++ ", retrying...")) := by
  rw [loop, h]
  exact if_pos htime

/-- What found nothing with time left is followed by another attempt, a pause later. -/
theorem loop_of_pending (htime : w'.clock < start + b.timeout.ticks) (rounds : Nat) (last : String) :
    loop what b check start (rounds + 1) n last w = loop what b check start rounds (n + 1) m
      ((w'.log .debug ("Waiting for " ++ what ++ ": " ++ m ++ ", retrying...")).advance b.interval.ticks) := by
  rw [loop, h]
  exact if_neg (Nat.not_le_of_lt htime)

end Rounds

end Poll

variable {α : Type}

/-- Polls with `spare` attempts more than the passing of time allows: a check that
takes no time, under a budget without pauses, changes its mind that often at most. -/
def pollUntilReady (what : String) (b : Budget) (check : Poll.Check α) (spare : Nat) : Session α :=
  fun w => Poll.loop what b check w.clock (b.rounds + spare) 1 Poll.notLooked w

/-- One step of a scripted check: how long it takes and how it ends. -/
structure Step (α : Type) where
  delay : Nat
  result : Except ProbeError (Readiness α)

namespace Step

def attempt (s : Step α) : Attempt (Except ProbeError (Readiness α)) :=
  .wait s.delay (.done s.result)

/-- The n-th attempt does the n-th step; the last one repeats, and without any the
check never ends. -/
def check (script : List (Step α)) : Poll.Check α := fun n =>
  match script[n - 1]?.or script.getLast? with
  | some s => s.attempt
  | none => .never

end Step

end ClusterProbe
