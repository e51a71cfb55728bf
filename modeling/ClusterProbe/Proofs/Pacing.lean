/-
  ClusterProbe.Proofs.Pacing — a poll keeps to its timetable.

  A check is described by a timetable when each attempt, begun on time, does what the
  timetable says of it: it ends with its result after its span, or is cut off, and
  leaves its own trail in the history (`Describes`). Then the whole poll is known
  (`loop_eq`): which attempt is the last, the result, the clock and the history, entry
  by entry. The counter that bounds the loop plays no part in it.

  - `pollUntilReady_eq`, `pollUntilReady_views`: the same for a poll from its beginning.
-/

import ClusterProbe.Proofs.Timetable
import ClusterProbe.Proofs.Traffic

namespace ClusterProbe

namespace Timetable

variable {α : Type}

/-- The check does in attempt `k`, begun on time, what the timetable says; `server k` is
the server then, `trail k` what the attempt itself adds to the history. -/
structure Describes (t : Timetable α) (check : Poll.Check α) (start : Nat) (server : Nat → Server)
    (trail : Nat → List Event) : Prop where
  ends : ∀ k w, 1 ≤ k → t.fate k ≠ .cut → w.clock = start + t.begins k → w.server = server k →
    ∃ s, t.step k = some s ∧ (check k).run (w.clock + t.timer.given (t.left k)) w =
      (some s.result, w.later (start + t.begins k + t.span k) (server (k + 1)) (trail k))
  isCut : ∀ k w, 1 ≤ k → t.fate k = .cut → w.clock = start + t.begins k → w.server = server k →
    ∃ sv, (check k).run (w.clock + t.timer.given (t.left k)) w =
      (none, w.later (start + t.begins k + t.timer.given (t.left k)) sv (trail k))
  /-- Attempts do not log, and begin no others. -/
  quiet : ∀ k, ∀ e ∈ trail k, e.attempt? = none ∧ e.line? = none

/-- What attempt `k` leaves in the history. -/
def events (t : Timetable α) (what : String) (start : Nat) (trail : Nat → List Event) (k : Nat) : List Event :=
  .attempt (start + t.begins k) what :: trail k ++ (t.lines what k).map fun l => .log l.1 l.2

variable {t : Timetable α} {check : Poll.Check α} {start : Nat} {server : Nat → Server}
  {trail : Nat → List Event}

/-! ## What is seen of an attempt -/

theorem events_attempts (h : t.Describes check start server trail) (what : String) (k : Nat) :
    (t.events what start trail k).filterMap Event.attempt? = [start + t.begins k] := by
  have htrail : (trail k).filterMap Event.attempt? = [] :=
    List.filterMap_eq_nil_iff.mpr fun e he => (h.quiet k e he).1
  simp [events, htrail, List.filterMap_map, Function.comp_def, Event.attempt?]

theorem events_lines (h : t.Describes check start server trail) (what : String) (k : Nat) :
    (t.events what start trail k).filterMap Event.line? = t.lines what k := by
  have htrail : (trail k).filterMap Event.line? = [] :=
    List.filterMap_eq_nil_iff.mpr fun e he => (h.quiet k e he).2
  simp [events, htrail, List.filterMap_cons, List.filterMap_map, Function.comp_def, Event.line?]

theorem events_exchanges (t : Timetable α) (what : String) (start : Nat) (trail : Nat → List Event) (k : Nat) :
    (t.events what start trail k).filterMap Event.exchange? = (trail k).filterMap Event.exchange? := by
  simp [events, List.filterMap_cons, List.filterMap_map, Function.comp_def, Event.exchange?]

/-! ## The loop -/

/-- One attempt on time: it is the last and decides, or the poll goes on after a pause. -/
theorem loop_step (h : t.Describes check start server trail) (what : String) (rounds : Nat) {k : Nat} (hk : 1 ≤ k)
    {w : World} (ht : w.timer = t.timer) (hc : w.clock = start + t.begins k) (hs : w.server = server k) :
    (t.Ends k ∧ ∃ sv, Poll.loop what t.budget check start (rounds + 1) k (t.observedBefore k) w =
      (t.outcome what k, w.later (start + t.finish k) sv (t.events what start trail k))) ∨
    (∃ m, t.fate k = .pending m ∧
      Poll.loop what t.budget check start (rounds + 1) k (t.observedBefore k) w =
        Poll.loop what t.budget check start rounds (k + 1) (t.observedBefore (k + 1))
          (w.later (start + t.begins (k + 1)) (server (k + 1)) (t.events what start trail k))) := by
  have hleft : start + t.budget.timeout.ticks - w.clock = t.left k := by
    rw [hc]; simp only [left, timeout]; omega
  have hlook : Poll.look what t.budget check start k w =
      (check k).run ((w.record (.attempt w.clock what)).clock + t.timer.given (t.left k))
        (w.record (.attempt w.clock what)) := by
    rw [Poll.look, hleft, ht]
    rfl
  simp only [Poll.loop, hlook]
  by_cases hcut : t.fate k = .cut
  · left
    obtain ⟨sv, hrun⟩ := h.isCut k (w.record (.attempt w.clock what)) hk hcut hc hs
    refine ⟨by intro m; simp [hcut], sv, ?_⟩
    rw [hrun]
    simp [outcome, finish, hcut, events, lines, World.log_eq_later, World.record_eq_later, hc, Nat.add_assoc]
  · obtain ⟨s, hstep, hrun⟩ := h.ends k (w.record (.attempt w.clock what)) hk hcut hc hs
    have hfate := fate_of_step hstep hcut
    rw [hrun]
    rcases hres : s.result with e | a | m <;> simp only [hres] at hfate ⊢
    · left
      refine ⟨by intro m; simp [hfate], server (k + 1), ?_⟩
      simp [outcome, finish, hfate, events, lines, World.record_eq_later, hc, Nat.add_assoc]
    · left
      refine ⟨by intro m; simp [hfate], server (k + 1), ?_⟩
      simp [outcome, finish, hfate, events, lines, World.log_eq_later, World.record_eq_later, hc, Nat.add_assoc]
    · by_cases htime : t.timeout ≤ t.begins k + t.span k
      · left
        rw [if_pos htime] at hfate
        refine ⟨by intro m; simp [hfate], server (k + 1), ?_⟩
        rw [if_pos (by simp only [World.log_eq_later, World.later_clock, timeout] at htime ⊢; omega)]
        simp [outcome, finish, hfate, events, lines, World.log_eq_later, World.record_eq_later, hc, Nat.add_assoc]
      · right
        rw [if_neg htime] at hfate
        refine ⟨m, hfate, ?_⟩
        rw [if_neg (by simp only [World.log_eq_later, World.later_clock, timeout] at htime ⊢; omega),
          observedBefore_succ hk hfate, t.begins_succ hk]
        simp [events, lines, hfate, World.advance_eq_later, World.log_eq_later, World.record_eq_later, hc, pause,
          Budget.pause, Nat.add_assoc]

/-- The poll from attempt `k` on, if the counter lasts to the last attempt. -/
theorem loop_eq (h : t.Describes check start server trail) (what : String) {n : Nat} (hn : t.Last n)
    (rounds k : Nat) (w : World) (hk : 1 ≤ k) (hkn : k ≤ n) (hr : n < k + rounds) (ht : w.timer = t.timer)
    (hc : w.clock = start + t.begins k) (hs : w.server = server k) :
    ∃ sv, Poll.loop what t.budget check start rounds k (t.observedBefore k) w =
      (t.outcome what n, w.later (start + t.finish n) sv
        ((List.range' k (n + 1 - k)).flatMap (t.events what start trail))) := by
  induction rounds generalizing k w with
  | zero => omega
  | succ rounds ih =>
    rcases loop_step h what rounds hk ht hc hs with ⟨hend, sv, hstop⟩ | ⟨m, hm, hgo⟩
    · obtain rfl : n = k := Nat.le_antisymm (hn.2 ⟨hk, hend⟩) hkn
      exact ⟨sv, by simpa using hstop⟩
    · have hne : n ≠ k := fun e => hn.1.2 m (e ▸ hm)
      have hrange : List.range' k (n + 1 - k) = k :: List.range' (k + 1) (n + 1 - (k + 1)) := by
        rw [show n + 1 - k = (n + 1 - (k + 1)) + 1 by omega, List.range'_succ]
      obtain ⟨sv, hloop⟩ := ih (k + 1)
        (w.later (start + t.begins (k + 1)) (server (k + 1)) (t.events what start trail k))
        (by omega) (by omega) (by omega) ht rfl rfl
      exact ⟨sv, by rw [hgo, hloop, hrange]; simp⟩

/-- The poll from its beginning: with pauses that take time the counter is no limit. -/
theorem pollUntilReady_eq {w : World} (h : t.Describes check w.clock server trail) (hp : 0 < t.pause)
    (ht : w.timer = t.timer) (hs : w.server = server 1) (what : String) (spare : Nat) :
    ∃ n, t.Last n ∧ ∃ sv, pollUntilReady what t.budget check spare w =
      (t.outcome what n, w.later (w.clock + t.finish n) sv
        ((List.range' 1 n).flatMap (t.events what w.clock trail))) := by
  obtain ⟨n, hn, hle⟩ := exists_last hp
  have hrounds : n < 1 + (t.budget.rounds + spare) := by
    simp only [Budget.rounds, timeout] at hle ⊢; omega
  obtain ⟨sv, hloop⟩ := loop_eq h what hn _ 1 w (Nat.le_refl _) hn.pos hrounds ht (by simp) hs
  exact ⟨n, hn, sv, by simpa [pollUntilReady, observedBefore] using hloop⟩

/-- The same by what is seen of it: result, attempts, log, exchanges and clock. -/
theorem pollUntilReady_views {w : World} (h : t.Describes check w.clock server trail) (hp : 0 < t.pause)
    (ht : w.timer = t.timer) (hs : w.server = server 1) (what : String) (spare : Nat) :
    let run := pollUntilReady what t.budget check spare w
    ∃ n, t.Last n ∧ run.1 = t.outcome what n ∧
      run.2.attempts = w.attempts ++ (List.range' 1 n).map (w.clock + t.begins ·) ∧
      run.2.lines = w.lines ++ (List.range' 1 n).flatMap (t.lines what) ∧
      run.2.exchanges = w.exchanges ++ (List.range' 1 n).flatMap (fun k => (trail k).filterMap Event.exchange?) ∧
      run.2.clock = w.clock + t.finish n := by
  intro run
  obtain ⟨n, hn, sv, hrun⟩ := pollUntilReady_eq h hp ht hs what spare
  refine ⟨n, hn, ?_⟩
  simp only [run, hrun, World.later_attempts, World.later_lines, World.later_exchanges, World.later_clock,
    List.filterMap_flatMap, events_attempts h, events_lines h, events_exchanges, ← List.map_eq_flatMap, and_self]

end Timetable

end ClusterProbe
