/-
  ClusterProbe.Proofs.MoreTime — a longer timeout changes no decision.

  An attempt cannot see its deadline: one that ends in time ends the same way, at the same
  time, under any later deadline, and under any that has not come when it ends
  (`Attempt.run_of_in_time`). The check decides a poll when an attempt finds what it looks
  for or raises an error, after attempts that found nothing with time left
  (`Poll.Decided`). A poll that ends in any other way has run out of time
  (`loop_decided_or_timeout`).

  - `longer_timeout_keeps_decision`: two polls that differ in nothing but their timeout
    march in step up to the decision of the one with less time, which is then the decision
    of both: the same result and the same world, with its clock, log and requests.
-/

import ClusterProbe.Proofs.Limits
import ClusterProbe.Resource.Cluster
import ClusterProbe.Session.Lifecycle

namespace ClusterProbe

variable {α : Type}

namespace Attempt

variable {deadline deadline' : Nat} {w w' : World} {x : α}

/-- What an attempt that ends in time has come to by now is before the one deadline just as before the other. -/
theorem clock_of_in_time {a : Attempt α} (hw : w.clock ≤ deadline) (hrun : a.run deadline w = (some x, w'))
    (h : deadline ≤ deadline' ∨ w'.clock < deadline') :
    w.clock ≤ deadline' ∧ (w.clock < deadline → w.clock < deadline') := by
  have hkeeps := a.run_keepsTo hw
  rw [hrun] at hkeeps
  have hle : w.clock ≤ w'.clock := hkeeps.begins
  omega

theorem inTime_of_in_time {ticks : Nat} {next : Attempt α}
    (hnext : ∀ {w : World}, w.clock ≤ deadline → next.run deadline w = (some x, w') →
      next.run deadline' w = (some x, w'))
    (hrun : inTime deadline ticks (next.run deadline) w = (some x, w'))
    (h : deadline ≤ deadline' ∨ w'.clock < deadline') : inTime deadline' ticks (next.run deadline') w = (some x, w') := by
  unfold inTime at hrun ⊢
  split at hrun
  · rename_i ht
    have ht' : w.clock + ticks ≤ deadline' := (clock_of_in_time (w := w.pass ticks) ht hrun h).1
    rw [if_pos ht']
    exact hnext ht hrun
  · cases hrun

/-- An attempt that ends in time ends so under every deadline that leaves it as much: a later one, and any that has
not come when it ends. -/
theorem run_of_in_time (a : Attempt α) (hw : w.clock ≤ deadline) (hrun : a.run deadline w = (some x, w'))
    (h : deadline ≤ deadline' ∨ w'.clock < deadline') : a.run deadline' w = (some x, w') := by
  induction a generalizing w with
  | done a => exact hrun
  | never => cases hrun
  | wait t next ih => exact inTime_of_in_time ih hrun h
  | request q next ih =>
    have hasked := (clock_of_in_time hw hrun h).2
    simp only [run] at hrun ⊢
    split at hrun
    · cases hrun
    · rw [if_neg (by omega)]
      exact inTime_of_in_time (ih _) hrun h
  | lookup host port next ih =>
    have hasked := (clock_of_in_time hw hrun h).2
    have hclock : (w.lookup host port).2.clock = w.clock := rfl
    simp only [run] at hrun ⊢
    split at hrun
    · cases hrun
    · rw [if_neg (by omega)]
      exact inTime_of_in_time (ih _) hrun h
  | probe url patience next ih =>
    have hasked := (clock_of_in_time hw hrun h).2
    simp only [run] at hrun ⊢
    split at hrun
    · cases hrun
    · rw [if_neg (by omega)]
      exact inTime_of_in_time (ih _) hrun h

end Attempt

namespace Poll

variable (what : String) (b : Budget) (check : Check α) (start : Nat)

/-- From attempt `n` on the check decides the poll, and `run` is what comes of it: an attempt
finds what it looks for or raises an error, and those before it found nothing with time
left. -/
inductive Decided : Nat → World → Except ProbeError α × World → Prop
  | ready {n : Nat} {w w' : World} {a : α} : look what b check start n w = (some (.ok (.ready a)), w') →
      Decided n w (.ok a, w'.log .info (what ++ " is ready after " ++ toString (counted n) ++ " attempt(s)"))
  | raised {n : Nat} {w w' : World} {e : ProbeError} : look what b check start n w = (some (.error e), w') →
      Decided n w (.error e, w')
  | later {n : Nat} {w w' : World} {m : String} {run : Except ProbeError α × World} :
      look what b check start n w = (some (.ok (.pending m)), w') → w'.clock < start + b.timeout.ticks →
      Decided (n + 1)
        ((w'.log .debug ("Waiting for " ++ what ++ ": " ++ m ++ ", retrying...")).advance b.interval.ticks) run →
      Decided n w run

variable {what b check start} {n : Nat} {w : World} {run : Except ProbeError α × World}

/-- With more time an attempt that ended ends the same way. -/
theorem look_of_le {b' : Budget} (ht : b.timeout.ticks ≤ b'.timeout.ticks) {w' : World}
    {x : Except ProbeError (Readiness α)} (h : look what b check start n w = (some x, w')) :
    look what b' check start n w = (some x, w') := by
  have hgiven : w.timer.given (start + b.timeout.ticks - w.clock) ≤
      w.timer.given (start + b'.timeout.ticks - w.clock) := w.timer.mono (by omega)
  exact (check n).run_of_in_time (Nat.le_add_right w.clock _) h (.inl (Nat.add_le_add_left hgiven _))

/-- A decision stands however much time there is beyond it. -/
theorem Decided.mono {b' : Budget} (hi : b'.interval = b.interval) (ht : b.timeout.ticks ≤ b'.timeout.ticks)
    (h : Decided what b check start n w run) : Decided what b' check start n w run := by
  induction h with
  | ready hlook => exact .ready (look_of_le ht hlook)
  | raised hlook => exact .raised (look_of_le ht hlook)
  | later hlook hleft _ ih => exact .later (look_of_le ht hlook) (by omega) (hi ▸ ih)

/-- The loop carries a decision out, if its counter lasts. -/
theorem Decided.exists_rounds (h : Decided what b check start n w run) :
    ∃ rounds, ∀ more last, loop what b check start (rounds + more) n last w = run := by
  induction h with
  | ready hlook =>
    refine ⟨1, fun more last => ?_⟩
    rw [Nat.add_comm, loop_of_ready hlook]
  | raised hlook =>
    refine ⟨1, fun more last => ?_⟩
    rw [Nat.add_comm, loop_of_raised hlook]
  | later hlook hleft _ ih =>
    obtain ⟨rounds, hrounds⟩ := ih
    refine ⟨rounds + 1, fun more last => ?_⟩
    rw [Nat.add_right_comm, loop_of_pending hlook hleft, hrounds]

/-- What the check does not decide has run out of time. -/
theorem loop_decided_or_timeout (rounds n : Nat) (last : String) (w : World) :
    let run := loop what b check start rounds n last w
    Decided what b check start n w run ∨ ∃ k m, run.1 = .error (.timeout what b.timeout k m) := by
  induction rounds generalizing n last w with
  | zero => exact .inr ⟨_, _, rfl⟩
  | succ rounds ih =>
    rcases hlook : look what b check start n w with ⟨_ | e | a | m, w'⟩
    · rw [loop_of_cut hlook]
      exact .inr ⟨_, _, rfl⟩
    · rw [loop_of_raised hlook]
      exact .inl (.raised hlook)
    · rw [loop_of_ready hlook]
      exact .inl (.ready hlook)
    · rcases Nat.lt_or_ge w'.clock (start + b.timeout.ticks) with hleft | hlate
      · rw [loop_of_pending hlook hleft]
        rcases ih (n + 1) m ((w'.log .debug ("Waiting for " ++ what ++ ": " ++ m ++ ", retrying...")).advance
          b.interval.ticks) with h | h
        · exact .inl (.later hlook hleft h)
        · exact .inr h
      · rw [loop_of_late hlook hlate]
        exact .inr ⟨_, _, rfl⟩

end Poll

/-- A whole poll is what its check decides. -/
theorem pollUntilReady_of_decided {what : String} {b : Budget} (hb : 0 < b.interval.ticks) {check : Poll.Check α}
    {w : World} {run : Except ProbeError α × World} (h : Poll.Decided what b check w.clock 1 w run) (spare : Nat) :
    pollUntilReady what b check spare w = run := by
  have hp : 0 < b.pause := Budget.pause_pos hb
  obtain ⟨rounds, hrounds⟩ := h.exists_rounds
  have henough := Budget.rounds_suffice hp w.clock (spare + rounds)
  have hloop := hrounds (b.rounds + spare) Poll.notLooked
  rw [Nat.add_comm, Nat.add_assoc] at hloop
  rw [← hloop]
  exact Poll.loop_rounds hp _ _ 1 Poll.notLooked (by omega) (Budget.rounds_suffice hp _ _) henough

/-- What the check of a poll decides, with a value or an error of its own, it decides under every longer timeout:
nothing about the run is different. Only a poll that ran out of time can go another way. For a poll for an object
that is every result but a timeout. -/
theorem longer_timeout_keeps_decision (what : String) (b b' : Budget) (hb : 0 < b.interval.ticks)
    (hi : b'.interval = b.interval) (ht : b.timeout.ticks ≤ b'.timeout.ticks) (check : Poll.Check α) (spare : Nat)
    (w : World) :
    let short := pollUntilReady what b check spare w
    let long := pollUntilReady what b' check spare w
    (Poll.Decided what b check w.clock 1 w short → long = short) ∧
    (∀ a, short.1 = .ok a → long = short) ∧
    (∀ e, short.1 = .error e → Poll.Decided what b check w.clock 1 w short ∨ ∃ k m, e = .timeout what b.timeout k m) ∧
    ∀ (K : Type) [Resource K] (c : Collection K) (name : String) (passes : K → Readiness Unit),
      (∃ k m, (pollObject c name b passes w).1 = .error (.timeout (describe K name) b.timeout k m)) ∨
        pollObject c name b' passes w = pollObject c name b passes w := by
  have hb' : 0 < b'.interval.ticks := hi ▸ hb
  have hkeeps : ∀ {β : Type} (what : String) (check : Poll.Check β) (spare : Nat),
      Poll.Decided what b check w.clock 1 w (pollUntilReady what b check spare w) →
        pollUntilReady what b' check spare w = pollUntilReady what b check spare w :=
    fun what check spare h => pollUntilReady_of_decided hb' (h.mono hi ht) spare
  have hcases : ∀ {β : Type} (what : String) (check : Poll.Check β) (spare : Nat),
      Poll.Decided what b check w.clock 1 w (pollUntilReady what b check spare w) ∨
        ∃ k m, (pollUntilReady what b check spare w).1 = .error (.timeout what b.timeout k m) :=
    fun what check spare => Poll.loop_decided_or_timeout _ 1 Poll.notLooked w
  refine ⟨hkeeps what check spare, fun a ha => ?_, fun e he => ?_, fun K _ c name passes => ?_⟩
  · rcases hcases what check spare with h | ⟨k, m, htimeout⟩
    · exact hkeeps what check spare h
    · rw [ha] at htimeout
      cases htimeout
  · rcases hcases what check spare with h | ⟨k, m, htimeout⟩
    · exact .inl h
    · rw [he] at htimeout
      cases htimeout
      exact .inr ⟨k, m, rfl⟩
  · rcases hcases (describe K name) (fun _ => (c.fetch name).map (judge (describe K name) passes)) w.unread with h | h
    · exact .inr (hkeeps _ _ _ h)
    · exact .inl h

/-- The check raises an error at the second look, after 1.7 s, whether it has 2 s or a minute. -/
theorem longer_timeout_keeps_decision_to_fail :
    let check : Poll.Check Unit := fun n =>
      if n = 1 then .wait 700 (.done (.ok (.pending "down"))) else .done (.error (.precondition "broken"))
    let short := pollUntilReady "thing" (.ofSecs 1 2) check 0 (.fresh [])
    let long := pollUntilReady "thing" (.ofSecs 1 60) check 0 (.fresh [])
    0 < (Budget.ofSecs 1 2).interval.ticks ∧ (Budget.ofSecs 1 60).interval = (Budget.ofSecs 1 2).interval ∧
      (Budget.ofSecs 1 2).timeout.ticks ≤ (Budget.ofSecs 1 60).timeout.ticks ∧
      short.1 = .error (.precondition "broken") ∧ short.2.clock = 1700 ∧ long = short := by
  intro check short long
  have hb : 0 < (Budget.ofSecs 1 2).interval.ticks := by decide
  have ht : (Budget.ofSecs 1 2).timeout.ticks ≤ (Budget.ofSecs 1 60).timeout.ticks := by decide
  have hfails : short.1 = .error (.precondition "broken") ∧ short.2.clock = 1700 := by decide +kernel
  obtain ⟨hkeeps, -, herror, -⟩ :=
    longer_timeout_keeps_decision "thing" (.ofSecs 1 2) (.ofSecs 1 60) hb rfl ht check 0 (.fresh [])
  refine ⟨hb, rfl, ht, hfails.1, hfails.2, ?_⟩
  rcases herror _ hfails.1 with hdecided | ⟨k, m, htimeout⟩
  · exact hkeeps hdecided
  · cases htimeout

end ClusterProbe
