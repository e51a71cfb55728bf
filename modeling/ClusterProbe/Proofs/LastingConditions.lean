/-
  ClusterProbe.Proofs.LastingConditions — a poll finds what lasts.

  Something becomes true `since` ticks after a poll began and stays so. An attempt begun
  before that may still see the old state; a later one finds what it looks for. If no
  attempt takes longer than `longest` ticks, or fails, the poll cannot miss it: the last
  attempt begun too early is over `longest` ticks later, the next one begins a pause
  after that, and ends in time if the timeout is not shorter than
  `since + interval + 2 * longest`.

  Only the attempts of this very poll have to be so (`Poll.Begins`, `Poll.LastsSince`):
  they may depend on a server that is what it is, and on anything else that the poll
  meets with. The timer is taken at its word, that it cuts nothing off before it is told
  to (`Timer.Allows`); for attempts shorter than the longest wait that needs no asking.

  - `LastsSince.look_cases`: an attempt finds what it looks for, or began too early.
  - `poll_finds_what_lasts`: the poll succeeds, no later than that.
-/

import ClusterProbe.Proofs.MoreTime

namespace ClusterProbe

variable {α : Type}

/-- The timer keeps its word to what ends within so many ticks: told to cut it off later, it lets it end. -/
def Timer.Allows (timer : Timer) (ticks : Nat) : Prop := ∀ {told}, ticks < told → ticks < timer.given told

/-- Short of the longest wait every timer does. -/
theorem Timer.allows_of_lt (timer : Timer) {ticks : Nat} (h : ticks < World.longestWait) : timer.Allows ticks := by
  intro told htold
  have hge := timer.le_given told
  omega

/-- Begun now, it ends with `x` after so many ticks at most, if it is given more. -/
def Attempt.EndsWithin (a : Attempt α) (ticks : Nat) (w : World) (x : α) : Prop :=
  ∃ w', a.run (w.clock + ticks + 1) w = (some x, w') ∧ w'.clock ≤ w.clock + ticks

/-- So it does, however much more. -/
theorem Attempt.EndsWithin.run_of_lt {a : Attempt α} {ticks given : Nat} {w : World} {x : α}
    (h : a.EndsWithin ticks w x) (hgiven : ticks < given) :
    ∃ w', a.run (w.clock + given) w = (some x, w') ∧ w.clock ≤ w'.clock ∧ w'.clock ≤ w.clock + ticks := by
  obtain ⟨w', hshort, hends⟩ := h
  have hbegun : w.clock ≤ w.clock + ticks + 1 := by omega
  have hrun := a.run_of_in_time hbegun hshort (.inl (by omega : w.clock + ticks + 1 ≤ w.clock + given))
  have hkeeps := a.run_keepsTo hbegun
  rw [hshort] at hkeeps
  exact ⟨w', hrun, hkeeps.begins, hends⟩

theorem Step.attempt_endsWithin (s : Step α) {ticks : Nat} (h : s.delay ≤ ticks) (w : World) :
    s.attempt.EndsWithin ticks w s.result := by
  have hwait : min s.delay World.longestWait ≤ ticks := Nat.le_trans (Nat.min_le_left _ _) h
  refine ⟨w.advance s.delay, ?_, Nat.add_le_add_left hwait _⟩
  simp only [attempt, Attempt.run, Attempt.inTime]
  rw [if_pos (by omega)]
  rfl

namespace Poll

variable (what : String) (b : Budget) (check : Check α) (w : World)

/-- What the poll begun in `w` looks for is there `since` ticks later, and stays: no attempt takes more than `longest`
ticks or fails, and each begun then or later finds it. Earlier ones may find it or not. -/
def LastsSince (since longest : Nat) : Prop :=
  ∀ n v, Begins what b check w n v →
    ∃ found, (check n).EndsWithin longest (v.record (.attempt v.clock what)) (.ok found) ∧
      (w.clock + since ≤ v.clock → ∃ a, found = .ready a)

variable {what b check w} {since longest n : Nat} {v : World}

/-- With more time left than it needs, an attempt finds what it looks for, or it began too early and finds nothing. -/
theorem LastsSince.look_cases (h : LastsSince what b check w since longest) (hbegins : Begins what b check w n v)
    (htimer : v.timer.Allows longest) (hleft : v.clock + longest < w.clock + b.timeout.ticks) :
    ∃ v', v.clock ≤ v'.clock ∧ v'.clock ≤ v.clock + longest ∧
      ((∃ a, look what b check w.clock n v = (some (.ok (.ready a)), v')) ∨
        ∃ m, look what b check w.clock n v = (some (.ok (.pending m)), v') ∧ v.clock < w.clock + since) := by
  obtain ⟨found, hattempt, hready⟩ := h n v hbegins
  have hgiven : longest < w.clock + b.timeout.ticks - v.clock := by omega
  obtain ⟨v', hlook, hbegun, hends⟩ := hattempt.run_of_lt (htimer hgiven)
  refine ⟨v', hbegun, hends, ?_⟩
  cases found with
  | ready a => exact .inl ⟨a, hlook⟩
  | pending m =>
    refine .inr ⟨m, hlook, ?_⟩
    by_contra hlate
    obtain ⟨a, ha⟩ := hready (by omega)
    cases ha

/-- From any of its attempts on the poll succeeds, if that attempt does not begin more than a pause and an attempt
after the condition has come true. That is so of the first, and of each that follows one begun too early. -/
theorem LastsSince.loop_finds (h : LastsSince what b check w since longest) (hp : 0 < b.pause)
    (hfits : since + b.pause + 2 * longest ≤ b.timeout.ticks) (rounds : Nat) (hbegins : Begins what b check w n v)
    (htimer : v.timer.Allows longest) (hsoon : v.clock + longest < w.clock + (since + b.pause + 2 * longest))
    (last : String) (hr : w.clock + b.timeout.ticks + b.pause ≤ v.clock + rounds * b.pause) :
    ∃ a v', loop what b check w.clock rounds n last v = (.ok a, v') ∧
      v'.clock ≤ w.clock + (since + b.pause + 2 * longest) := by
  induction rounds generalizing n v last with
  | zero => omega
  | succ rounds ih =>
    obtain ⟨v', hbegun, hends, ⟨a, hlook⟩ | ⟨m, hlook, hearly⟩⟩ := h.look_cases hbegins htimer (by omega)
    · refine ⟨a, _, loop_of_ready hlook rounds last, ?_⟩
      rw [World.clock_log]
      omega
    · have hgoes : v'.clock < w.clock + b.timeout.ticks := by omega
      -- This attempt began before the condition came true, and so the next one begins soon enough after it.
      have hnext := Begins.next hbegins hlook hgoes
      rw [Nat.succ_mul] at hr
      rw [loop_of_pending hlook hgoes]
      refine ih hnext (timer_of_look hlook ▸ htimer) ?_ m ?_
      · change v'.clock + b.pause + longest < _
        omega
      · change _ ≤ v'.clock + b.pause + _
        omega

end Poll

/-- A condition that comes true and lasts is never missed. With attempts of at most `longest` ticks the poll finds it
at most an interval and two attempts after it has come true, if the timeout leaves as much time and the timer cuts
nothing off before it is told to. -/
theorem poll_finds_what_lasts (what : String) (b : Budget) (hb : 0 < b.interval.ticks) (since longest : Nat)
    (hfits : since + b.interval.ticks + 2 * longest ≤ b.timeout.ticks) (check : Poll.Check α) (spare : Nat) (w : World)
    (htimer : w.timer.Allows longest) (h : Poll.LastsSince what b check w since longest) :
    let run := pollUntilReady what b check spare w
    ∃ a, run.1 = .ok a ∧ run.2.clock ≤ w.clock + (since + b.interval.ticks + 2 * longest) := by
  intro run
  have hp : 0 < b.pause := Budget.pause_pos hb
  have hpause : b.pause ≤ b.interval.ticks := Nat.min_le_left _ _
  obtain ⟨a, w', hrun, hends⟩ := h.loop_finds hp (by omega) (b.rounds + spare) .first htimer (by omega)
    Poll.notLooked (Budget.rounds_suffice hp w.clock spare)
  have hclock : run.2.clock = w'.clock := congrArg (·.2.clock) hrun
  exact ⟨a, congrArg (·.1) hrun, by omega⟩

/-- A thing that comes up 1701 ms after the poll began. The attempt begun a moment earlier does not see it, and there is
just time enough for another one. -/
theorem poll_finds_what_lasts_in_last_moment :
    let b : Budget := ⟨.ofMillis 1000, .ofMillis 4101⟩
    let found (n : Nat) : Readiness String := if n < 3 then .pending "starting" else .ready "up"
    let check : Poll.Check String := fun n => Step.attempt ⟨700, .ok (found n)⟩
    let run := pollUntilReady "thing" b check 0 (.fresh [])
    0 < b.interval.ticks ∧ 1701 + b.interval.ticks + 2 * 700 ≤ b.timeout.ticks ∧ Timer.capped.Allows 700 ∧
      Poll.LastsSince "thing" b check (.fresh []) 1701 700 ∧
      (∃ a, run.1 = .ok a ∧ run.2.clock ≤ 0 + (1701 + b.interval.ticks + 2 * 700)) ∧ run.2.clock = 4100 := by
  intro b found check run
  have hlasts : Poll.LastsSince "thing" b check (.fresh []) 1701 700 := by
    intro n v hbegins
    refine ⟨found n, Step.attempt_endsWithin _ (Nat.le_refl _) _, fun hlate => ⟨"up", if_neg ?_⟩⟩
    intro hn
    cases hbegins with
    | first => exact absurd hlate (by decide)
    | @next _ _ v' _ hbefore hlook _ =>
      cases hbefore with
      | first =>
        have hfirst : (Poll.look "thing" b check 0 1 (.fresh [])).2.clock = 700 := by decide +kernel
        have hends : (Poll.look "thing" b check 0 1 (.fresh [])).2.clock = v'.clock := congrArg (·.2.clock) hlook
        have hpause : b.pause = 1000 := by decide
        have hlate : 0 + 1701 ≤ v'.clock + b.pause := hlate
        omega
      | next hfirst _ _ =>
        have hpos := hfirst.pos
        omega
  have htimer : Timer.capped.Allows 700 := Timer.capped.allows_of_lt (by decide)
  exact ⟨by decide, by decide, htimer, hlasts, poll_finds_what_lasts "thing" b (by decide) 1701 700 (by decide) check 0
    (.fresh []) htimer hlasts, by decide +kernel⟩

end ClusterProbe
