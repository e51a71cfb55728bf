/-
  ClusterProbe.Proofs.TimedSteps — polls whose attempts only take time.

  The attempts are plain steps: attempt `k` takes its time and ends with its result, or
  never ends. Such a poll touches nothing but the clock and the log.

  - `poll_keeps_timetable`: its result, the beginnings of its attempts, its log and the
    time it takes are those of the timetable, for every sequence of steps.
  - `pause_stops_at_longest_wait`: a pause is the interval only up to the longest wait;
    a longer interval does not put the next attempt off any further.
-/

import ClusterProbe.Proofs.Pacing

namespace ClusterProbe

namespace Timetable

variable {α : Type}

/-- The check whose attempts are the steps of the timetable. -/
def check (t : Timetable α) : Poll.Check α := fun k =>
  match t.step k with
  | some s => s.attempt
  | none => .never

theorem describes_check (t : Timetable α) (ht : t.asks = false) (start : Nat) (sv : Server) :
    t.Describes t.check start (fun _ => sv) fun _ => [] where
  ends k w _ hcut hc hs := by
    have hgiven := t.span_le_given (span_le_left hcut)
    simp only [ne_eq, fate_cut_iff, not_forall] at hcut
    obtain ⟨s, hstep, -⟩ := hcut
    have hspan : t.span k = min s.delay World.longestWait := by simp [span, hstep]
    refine ⟨s, hstep, ?_⟩
    simp only [check, hstep, Step.attempt, Attempt.run, Attempt.inTime]
    rw [if_pos (by omega)]
    simp [World.pass_eq_later, hc, hs, hspan]
  isCut k w _ hcut hc hs := by
    refine ⟨sv, ?_⟩
    have hlater : w.advanceTo (w.clock + t.timer.given (t.left k)) =
        w.later (start + t.begins k + t.timer.given (t.left k)) sv [] := by
      simp only [World.advanceTo, World.later, hc, hs, List.append_nil]
      congr 1
      omega
    rw [fate_cut_iff] at hcut
    cases hstep : t.step k with
    | none => simp [check, hstep, Attempt.run, hlater]
    | some s =>
      have hspan : t.span k = min s.delay World.longestWait := by simp [span, hstep]
      have hgiven := t.timer.given_le (t.left k)
      have hlong := hcut s hstep
      simp only [ht, Bool.false_eq_true, false_and, or_false] at hlong
      simp only [check, hstep, Step.attempt, Attempt.run, Attempt.inTime]
      rw [if_neg (by omega), hlater]
  quiet _ e he := by cases he

end Timetable

variable {α : Type}

/-- A poll of timed steps is its timetable. There is a first attempt that is cut off, ends
ready or with an error, or finds nothing at the timeout or later; the check is called so
often, each time when the timetable says; and the result, the log and the time taken are
what the timetable says of that attempt. -/
theorem poll_keeps_timetable (what : String) (b : Budget) (hb : 0 < b.interval.ticks) (step : Nat → Option (Step α))
    (spare : Nat) (w : World) :
    let t : Timetable α := { budget := b, timer := w.timer, step := step }
    let run := pollUntilReady what b t.check spare w
    ∃ n, t.Last n ∧ run.1 = t.outcome what n ∧ (n < 4294967296 → (Poll.counted n).toNat = n) ∧
      run.2.attempts = w.attempts ++ (List.range' 1 n).map (w.clock + t.begins ·) ∧
      run.2.lines = w.lines ++ (List.range' 1 n).flatMap (t.lines what) ∧
      run.2.exchanges = w.exchanges ∧ run.2.clock = w.clock + t.finish n := by
  intro t run
  have hp : 0 < t.pause := Budget.pause_pos hb
  obtain ⟨n, hn, hresult, hattempts, hlines, hexchanges, hclock⟩ :=
    Timetable.pollUntilReady_views (t.describes_check rfl w.clock w.server) hp rfl rfl what spare
  exact ⟨n, hn, hresult, Poll.toNat_counted, hattempts, hlines,
    hexchanges.trans (by simp [List.flatMap_eq_nil_iff]), hclock⟩

/-- The poll of a thing that needs 2 s and 400 ms with a pause of 1 s and a timeout of 2 s: the third attempt
begins after the timeout and still counts, because it takes no time. -/
theorem poll_keeps_timetable_past_the_deadline :
    let step : Nat → Option (Step String) := fun k =>
      if k = 1 then some ⟨400, .ok (.pending "starting")⟩
      else if k = 2 then some ⟨0, .ok (.pending "started")⟩
      else some ⟨0, .ok (.ready "up")⟩
    let t : Timetable String := { budget := .ofSecs 1 2, timer := .capped, step := step }
    let run := pollUntilReady "thing" t.budget t.check 0 (.fresh [])
    0 < t.budget.interval.ticks ∧ ∃ n, t.Last n ∧ run.1 = t.outcome "thing" n ∧
      (n < 4294967296 → (Poll.counted n).toNat = n) ∧
      run.2.attempts = [] ++ (List.range' 1 n).map (0 + t.begins ·) ∧
      run.2.lines = [] ++ (List.range' 1 n).flatMap (t.lines "thing") ∧
      run.2.exchanges = [] ∧ run.2.clock = 0 + t.finish n :=
  ⟨by decide, poll_keeps_timetable "thing" (.ofSecs 1 2) (by decide) _ 0 (.fresh [])⟩

/-- Were the pause as long as the interval, the second attempt would begin long after the
timeout and be the last, finding nothing. It begins at the longest wait, and there are
two more. -/
theorem pause_stops_at_longest_wait :
    let b : Budget := ⟨.ofSecs 10000000000, .ofSecs 2000000000⟩
    let check := Step.check
      [⟨0, .ok (.pending "p")⟩, ⟨0, .ok (.pending "q")⟩, ⟨0, .ok (.pending "r")⟩, ⟨0, .ok (.ready 2)⟩]
    let run := pollUntilReady "w" b check 0 (.fresh [])
    b.timeout.ticks ≤ 0 + 0 + b.interval.ticks ∧ run.1 = .ok 2 ∧
      run.2.attempts = [0, 946080000000, 1892160000000, 2838240000000] := by
  decide +kernel

end ClusterProbe
