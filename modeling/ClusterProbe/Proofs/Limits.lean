/-
  ClusterProbe.Proofs.Limits — how long a poll can take, whatever it checks.

  An attempt keeps to its deadline, and each one but the last is followed by a pause;
  so attempt `k + 1` begins `k` pauses after the first one or later, and no attempt
  begins a whole pause after the timeout. That bounds the attempts (`Budget.attemptLimit`)
  and the time, for attempts that ask, wait, fail or never end (`loop_limits`).

  - `poll_within_limits`: the bounds of a whole poll; attempts that find nothing and take
    no time reach the bound on their number. The counter of the loop is never what ends a
    poll (`loop_rounds`).
  - `long_pauses_add_an_attempt`: the pause counts, not the interval; beyond the longest
    wait the interval alone would allow fewer attempts than there are.
-/

import Mathlib.Algebra.Order.Floor.Div
import ClusterProbe.Platform
import ClusterProbe.Proofs.TimedSteps

namespace ClusterProbe

variable {α : Type}

namespace Budget

/-- The most attempts of a poll: one for each pause that begins before the timeout, and
the last one. -/
def attemptLimit (b : Budget) : Nat := b.timeout.ticks ⌈/⌉ b.pause + 1

theorem lt_attemptLimit_iff {b : Budget} (hp : 0 < b.pause) {k : Nat} :
    k < b.attemptLimit ↔ k * b.pause < b.timeout.ticks + b.pause := by
  rw [attemptLimit, Nat.lt_succ_iff, Nat.ceilDiv_eq_add_pred_div, Nat.le_div_iff_mul_le hp]
  omega

/-- The budgets that the checks of this library use. -/
def standard : List Budget :=
  [existence, deletion, definitionEstablished, meshDeployment, controlPlaneReady, gatewayClassAccepted,
    gatewayAccepted, httpRouteAccepted, dnsRecordPublished, hostResolves, httpAnswers]

end Budget

/-! ## One attempt -/

/-- Begun in the first world, an attempt has come to this by its deadline. -/
structure Attempt.KeepsTo (deadline : Nat) (w : World) (r : Option α × World) : Prop where
  begins : w.clock ≤ r.2.clock
  ends : r.2.clock ≤ deadline
  isCut : r.1 = none → r.2.clock = deadline
  attempts : r.2.attempts = w.attempts
  timer : r.2.timer = w.timer

namespace Attempt.KeepsTo

variable {deadline : Nat} {w w' : World} {r : Option α × World}

/-- What goes before takes its time and begins no attempt. -/
theorem of_later (h : KeepsTo deadline w' r) (hc : w.clock ≤ w'.clock) (ha : w'.attempts = w.attempts)
    (ht : w'.timer = w.timer) : KeepsTo deadline w r :=
  ⟨hc.trans h.begins, h.ends, h.isCut, h.attempts.trans ha, h.timer.trans ht⟩

theorem cut (h : w.clock ≤ deadline) : KeepsTo deadline w ((none : Option α), w.advanceTo deadline) :=
  ⟨Nat.le_max_left _ _, Nat.max_le.mpr ⟨h, Nat.le_refl _⟩, fun _ => Nat.max_eq_right h, rfl, rfl⟩

theorem late (h : w.clock ≤ deadline) (hlate : deadline ≤ w.clock) : KeepsTo deadline w ((none : Option α), w) :=
  ⟨Nat.le_refl _, h, fun _ => Nat.le_antisymm h hlate, rfl, rfl⟩

theorem inTime {ticks : Nat} {next : World → Option α × World}
    (hnext : ∀ {w : World}, w.clock ≤ deadline → KeepsTo deadline w (next w)) (h : w.clock ≤ deadline) :
    KeepsTo deadline w (Attempt.inTime deadline ticks next w) := by
  unfold Attempt.inTime
  split
  · rename_i ht
    exact (hnext (w := w.pass ticks) ht).of_later (Nat.le_add_right _ _) rfl rfl
  · exact .cut h

end Attempt.KeepsTo

/-- An attempt ends between its beginning and its deadline, at the deadline if it is cut
off, and begins no other. -/
theorem Attempt.run_keepsTo (a : Attempt α) {deadline : Nat} {w : World} (h : w.clock ≤ deadline) :
    KeepsTo deadline w (a.run deadline w) := by
  induction a generalizing w with
  | done a => exact ⟨Nat.le_refl _, h, (fun hn => nomatch hn), rfl, rfl⟩
  | never => exact .cut h
  | wait t next ih => exact .inTime ih h
  | request q next ih =>
    have hsent : (w.exchange q).2.attempts = w.attempts := by
      simp [World.exchange, World.record, World.attempts, Event.attempt?]
    simp only [run]
    split
    · rename_i hlate
      exact .late h hlate
    · exact (KeepsTo.inTime (w := (w.exchange q).2) (ih _) h).of_later (Nat.le_refl _) hsent rfl
  | lookup host port next ih =>
    have hasked : (w.lookup host port).2.attempts = w.attempts := by
      simp [World.lookup, World.record, World.attempts, Event.attempt?]
    simp only [run]
    split
    · rename_i hlate
      exact (KeepsTo.late (w := (w.lookup host port).2) h hlate).of_later (Nat.le_refl _) hasked rfl
    · exact (KeepsTo.inTime (w := (w.lookup host port).2) (ih _) h).of_later (Nat.le_refl _) hasked rfl
  | probe url patience next ih =>
    have hsent : (w.probe url patience).2.attempts = w.attempts := by
      simp [World.probe, World.record, World.attempts, Event.attempt?]
    simp only [run]
    split
    · rename_i hlate
      exact .late h hlate
    · exact (KeepsTo.inTime (w := (w.probe url patience).2) (ih _) h).of_later (Nat.le_refl _) hsent rfl

/-! ## One round of the loop -/

namespace Poll

section Runs

variable (what : String) (b : Budget) (check : Check α) (w : World)

/-- Attempt `n` of the poll begun in `w` begins in this world: the first one at once, and another one a pause after
each that found nothing with time left. -/
inductive Begins : Nat → World → Prop
  | first : Begins 1 w
  | next {n : Nat} {v v' : World} {m : String} : Begins n v →
      look what b check w.clock n v = (some (.ok (.pending m)), v') → v'.clock < w.clock + b.timeout.ticks →
      Begins (n + 1) ((v'.log .debug ("Waiting for " ++ what ++ ": " ++ m ++ ", retrying...")).advance b.interval.ticks)

/-- The poll begun in `w` may end in this error at a time, after `n` attempts, the last of them begun at `begun`: that
attempt raised it, or the time is up. The time is up short of the deadline only for an attempt that was cut off by the
timer itself, after the longest wait or later. -/
inductive MayFail (n begun time : Nat) : ProbeError → Prop
  | raised {v v' : World} {e : ProbeError} : Begins what b check w n v →
      look what b check w.clock n v = (some (.error e), v') → v.clock = begun → v'.clock = time →
      MayFail n begun time e
  | expired (m : String) : w.clock + b.timeout.ticks ≤ time →
      MayFail n begun time (.timeout what b.timeout (counted n) m)
  | cut (m : String) : begun + World.longestWait ≤ time →
      time = begun + w.timer.given (w.clock + b.timeout.ticks - begun) →
      MayFail n begun time (.timeout what b.timeout (counted n) m)

variable {what b check w} {n : Nat} {v : World}

theorem Begins.pos (h : Begins what b check w n v) : 1 ≤ n := by
  cases h <;> omega

end Runs

variable {b : Budget}

theorem look_keepsTo (what : String) (check : Check α) (start : Nat) (n : Nat) (w : World) :
    Attempt.KeepsTo (w.clock + w.timer.given (start + b.timeout.ticks - w.clock)) (w.record (.attempt w.clock what))
      (look what b check start n w) :=
  (check n).run_keepsTo (Nat.le_add_right _ _)

variable {what : String} {check : Check α} {start : Nat}

theorem timer_of_look {n : Nat} {w w' : World} {found : Option (Except ProbeError (Readiness α))}
    (hlook : look what b check start n w = (found, w')) : w'.timer = w.timer :=
  (hlook ▸ look_keepsTo what check start n w).timer

/-- An attempt that does not begin a pause after the deadline does not end then either. -/
theorem look_limits (hp : 0 < b.pause) {n : Nat} {w w' : World} {found : Option (Except ProbeError (Readiness α))}
    (hw : w.clock < start + b.timeout.ticks + b.pause) (hlook : look what b check start n w = (found, w')) :
    w'.attempts = w.attempts ++ [w.clock] ∧ w.clock ≤ w'.clock ∧ w'.clock < start + b.timeout.ticks + b.pause := by
  have hgiven := w.timer.given_le (start + b.timeout.ticks - w.clock)
  have hkeeps := hlook ▸ look_keepsTo what check start n w
  have hbegun : w.clock ≤ w'.clock := hkeeps.begins
  have hends : w'.clock ≤ w.clock + w.timer.given (start + b.timeout.ticks - w.clock) := hkeeps.ends
  exact ⟨hkeeps.attempts.trans (w.attempts_attempt _ _), hbegun, by omega⟩

/-- The rest of a poll after `k` attempts, if the counter is no limit: each of them took a pause at least. -/
theorem loop_limits {w₀ : World} (hp : 0 < b.pause) (rounds k : Nat) (last : String) {w : World}
    (hbegins : Begins what b check w₀ (k + 1) w) (ht : w.timer = w₀.timer)
    (hw : w.clock < w₀.clock + b.timeout.ticks + b.pause) (hk : w₀.clock + k * b.pause ≤ w.clock)
    (hr : w₀.clock + b.timeout.ticks + b.pause ≤ w.clock + rounds * b.pause) :
    let run := loop what b check w₀.clock rounds (k + 1) last w
    ∃ starts begun, run.2.attempts = w.attempts ++ starts ∧ starts.getLast? = some begun ∧
      k + starts.length ≤ b.attemptLimit ∧ w.clock ≤ run.2.clock ∧
      run.2.clock < w₀.clock + b.timeout.ticks + b.pause ∧
      ∀ e, run.1 = .error e → MayFail what b check w₀ (k + starts.length) begun run.2.clock e := by
  induction rounds generalizing k last w with
  | zero => omega
  | succ rounds ih =>
    have hlimit : k < b.attemptLimit := (Budget.lt_attemptLimit_iff hp).mpr (by omega)
    -- The poll ends with this attempt, if what it ends in is what it may.
    have hends : ∀ {r : Except ProbeError α} {w' : World}, w'.attempts = w.attempts ++ [w.clock] → w.clock ≤ w'.clock →
        w'.clock < w₀.clock + b.timeout.ticks + b.pause →
        (∀ e, r = .error e → MayFail what b check w₀ (k + 1) w.clock w'.clock e) →
        ∃ starts begun, w'.attempts = w.attempts ++ starts ∧ starts.getLast? = some begun ∧
          k + starts.length ≤ b.attemptLimit ∧ w.clock ≤ w'.clock ∧ w'.clock < w₀.clock + b.timeout.ticks + b.pause ∧
          ∀ e, r = .error e → MayFail what b check w₀ (k + starts.length) begun w'.clock e :=
      fun hattempts hle hlt hfail => ⟨[w.clock], w.clock, hattempts, rfl, hlimit, hle, hlt, hfail⟩
    rcases hlook : look what b check w₀.clock (k + 1) w with ⟨_ | e | a | m, w'⟩ <;>
      obtain ⟨hattempts, hle, hlt⟩ := look_limits hp hw hlook
    · rw [loop_of_cut hlook]
      refine hends (by simpa using hattempts) hle hlt ?_
      rintro _ ⟨⟩
      have htime : w'.clock = w.clock + w₀.timer.given (w₀.clock + b.timeout.ticks - w.clock) :=
        ht ▸ (hlook ▸ look_keepsTo what check w₀.clock (k + 1) w).isCut rfl
      rcases Nat.lt_or_ge w'.clock (w₀.clock + b.timeout.ticks) with hearly | hlate
      · have hshort : w₀.timer.given (w₀.clock + b.timeout.ticks - w.clock) < w₀.clock + b.timeout.ticks - w.clock := by
          omega
        have hlong := w₀.timer.longestWait_le_given hshort
        exact .cut last (by rw [World.clock_log, htime]; omega) htime
      · exact .expired last hlate
    · rw [loop_of_raised hlook]
      refine hends hattempts hle hlt ?_
      rintro _ ⟨⟩
      exact .raised hbegins hlook rfl rfl
    · rw [loop_of_ready hlook]
      refine hends (by simpa using hattempts) hle hlt ?_
      rintro _ ⟨⟩
    · rcases Nat.lt_or_ge w'.clock (w₀.clock + b.timeout.ticks) with hleft | hlate
      · have hpause : ((w'.log .debug ("Waiting for " ++ what ++ ": " ++ m ++ ", retrying...")).advance
          b.interval.ticks).clock = w'.clock + b.pause := rfl
        rw [Nat.succ_mul] at hr
        obtain ⟨starts, begun, hstarts, hlast, hmost, hclock, hover, hfail⟩ := ih (k + 1) m
          (.next hbegins hlook hleft) ((timer_of_look hlook).trans ht) (by omega) (by rw [Nat.succ_mul]; omega)
          (by omega)
        rw [loop_of_pending hlook hleft]
        refine ⟨w.clock :: starts, begun, by rw [hstarts]; simp [hattempts], by simp [List.getLast?_cons, hlast], ?_,
          ?_, hover, ?_⟩
        · rw [List.length_cons]
          omega
        · omega
        · intro e he
          have := hfail e he
          rwa [List.length_cons, ← Nat.add_assoc, Nat.add_right_comm]
      · rw [loop_of_late hlook hlate]
        refine hends (by simpa using hattempts) hle hlt ?_
        rintro _ ⟨⟩
        exact .expired m hlate

/-- As long as it is no limit, it does not matter what the counter says. -/
theorem loop_rounds (hp : 0 < b.pause) (rounds rounds' n : Nat) (last : String) {w : World}
    (hw : w.clock < start + b.timeout.ticks + b.pause)
    (hr : start + b.timeout.ticks + b.pause ≤ w.clock + rounds * b.pause)
    (hr' : start + b.timeout.ticks + b.pause ≤ w.clock + rounds' * b.pause) :
    loop what b check start rounds n last w = loop what b check start rounds' n last w := by
  induction rounds generalizing rounds' n last w with
  | zero => omega
  | succ rounds ih =>
    obtain _ | rounds' := rounds'
    · omega
    rcases hlook : look what b check start n w with ⟨_ | e | a | m, w'⟩
    · rw [loop_of_cut hlook, loop_of_cut hlook]
    · rw [loop_of_raised hlook, loop_of_raised hlook]
    · rw [loop_of_ready hlook, loop_of_ready hlook]
    · obtain ⟨-, hle, hlt⟩ := look_limits hp hw hlook
      rcases Nat.lt_or_ge w'.clock (start + b.timeout.ticks) with hleft | hlate
      · have hpause : ((w'.log .debug ("Waiting for " ++ what ++ ": " ++ m ++ ", retrying...")).advance
          b.interval.ticks).clock = w'.clock + b.pause := rfl
        rw [loop_of_pending hlook hleft, loop_of_pending hlook hleft]
        rw [Nat.succ_mul] at hr hr'
        exact ih rounds' (n + 1) m (by omega) (by omega) (by omega)
      · rw [loop_of_late hlook hlate, loop_of_late hlook hlate]

end Poll

/-! ## Whole polls -/

/-- The counter of a whole poll is never a limit. -/
theorem Budget.rounds_suffice {b : Budget} (hp : 0 < b.pause) (start spare : Nat) :
    start + b.timeout.ticks + b.pause ≤ start + (b.rounds + spare) * b.pause := by
  have hrounds : b.timeout.ticks + 1 ≤ b.rounds + spare := by
    simp only [Budget.rounds]
    omega
  calc start + b.timeout.ticks + b.pause
      ≤ start + b.timeout.ticks * b.pause + b.pause := by
        have := Nat.le_mul_of_pos_right b.timeout.ticks hp
        omega
    _ = start + (b.timeout.ticks + 1) * b.pause := by rw [Nat.succ_mul, Nat.add_assoc]
    _ ≤ start + (b.rounds + spare) * b.pause := Nat.add_le_add_left (Nat.mul_le_mul_right _ hrounds) _

/-- Attempts that find nothing and take no time are a pause apart, up to the timeout and once more. -/
theorem length_attempts_of_instant (what : String) {b : Budget} (hb : 0 < b.interval.ticks) (m : String) (spare : Nat)
    (w : World) :
    let run := pollUntilReady what b (fun _ => Step.attempt (α := α) ⟨0, .ok (.pending m)⟩) spare w
    run.2.attempts.length = w.attempts.length + b.attemptLimit := by
  intro run
  have hp : 0 < b.pause := Budget.pause_pos hb
  let t : Timetable α := { budget := b, timer := w.timer, step := fun _ => some ⟨0, .ok (.pending m)⟩ }
  have hbegins : ∀ k, t.begins (k + 1) = k * b.pause := by
    intro k
    induction k with
    | zero => simp
    | succ k ih =>
      rw [t.begins_succ (by omega), ih, Nat.succ_mul]
      simp [Timetable.span, Timetable.pause, t]
  obtain ⟨n, hn, -, hattempts, -⟩ :=
    Timetable.pollUntilReady_views (t.describes_check rfl w.clock w.server) hp rfl rfl what spare
  have hends : ∀ k, t.Ends (k + 1) ↔ b.attemptLimit ≤ k + 1 := by
    intro k
    have hspan : t.span (k + 1) = 0 := by simp [Timetable.span, t]
    have hcut : t.fate (k + 1) ≠ .cut := by
      simp only [ne_eq, Timetable.fate_cut_iff, hspan]
      simp [t]
    have hfate : t.fate (k + 1) = if b.timeout.ticks ≤ k * b.pause then .expired m else .pending m := by
      rw [Timetable.fate_of_step rfl hcut]
      simp [hbegins, hspan, Timetable.timeout, t]
    have hlimit : b.attemptLimit ≤ k + 1 ↔ b.timeout.ticks ≤ k * b.pause := by
      rw [← Nat.not_lt, Budget.lt_attemptLimit_iff hp, Nat.succ_mul]
      omega
    rw [hlimit, Timetable.Ends, hfate]
    by_cases htime : b.timeout.ticks ≤ k * b.pause <;> simp [htime]
  have hlast : n = b.attemptLimit := by
    obtain ⟨k, rfl⟩ : ∃ k, n = k + 1 := ⟨n - 1, by have := hn.pos; omega⟩
    exact Nat.le_antisymm (hn.2 ⟨Nat.le_add_left _ _, (hends _).mpr (Nat.le_refl _)⟩) ((hends k).mp hn.1.2)
  rw [← hlast]
  exact (congrArg List.length hattempts).trans (by simp)

/-- Whatever a poll checks, it ends by itself, with no more attempts than its budget allows, before a pause
has passed since its timeout, and runs out of time only when that has come. Attempts that find nothing at once
make all that are allowed, and what the budgets of this library allow a word of 32 bits can count. -/
theorem poll_within_limits (what : String) (b : Budget) (hb : 0 < b.interval.ticks) (check : Poll.Check α)
    (spare : Nat) (w : World) :
    let run := pollUntilReady what b check spare w
    run = pollUntilReady what b check 0 w ∧
    (∃ starts begun, run.2.attempts = w.attempts ++ starts ∧ starts.getLast? = some begun ∧
      starts.length ≤ b.attemptLimit ∧
      (b.attemptLimit < 4294967296 → (Poll.counted starts.length).toNat = starts.length) ∧
      ∀ e, run.1 = .error e → Poll.MayFail what b check w starts.length begun run.2.clock e) ∧
    run.2.clock < w.clock + b.timeout.ticks + b.pause ∧
    (∀ m, (pollUntilReady what b (fun _ => Step.attempt (α := α) ⟨0, .ok (.pending m)⟩) spare w).2.attempts.length =
      w.attempts.length + b.attemptLimit) ∧
    ∀ b ∈ Budget.standard, b.attemptLimit < 4294967296 := by
  intro run
  have hp : 0 < b.pause := Budget.pause_pos hb
  have hw : w.clock < w.clock + b.timeout.ticks + b.pause := by omega
  obtain ⟨starts, begun, hattempts, hlast, hlimit, -, hend, hfail⟩ := Poll.loop_limits hp
    (b.rounds + spare) 0 Poll.notLooked .first rfl hw (by omega) (Budget.rounds_suffice hp _ _)
  simp only [Nat.zero_add] at hlimit hfail
  refine ⟨?_, ⟨starts, begun, hattempts, hlast, hlimit, ?_, hfail⟩, hend,
    fun m => length_attempts_of_instant what hb m spare w, by decide⟩
  · exact Poll.loop_rounds hp _ _ 1 Poll.notLooked hw (Budget.rounds_suffice hp _ _)
      (Budget.rounds_suffice hp _ _)
  · intro hword
    exact Poll.toNat_counted (Nat.lt_of_le_of_lt hlimit hword)

/-- A poll with a pause of 1 s and a timeout of 1.5 s whose second attempt never ends. -/
theorem poll_within_limits_of_endless :
    let b : Budget := ⟨.ofMillis 1000, .ofMillis 1500⟩
    let check : Poll.Check Unit := fun k => if k = 1 then .done (.ok (.pending "down")) else .never
    let run := pollUntilReady "thing" b check 0 (.fresh [])
    0 < b.interval.ticks ∧ run = pollUntilReady "thing" b check 0 (.fresh []) ∧
    (∃ starts begun, run.2.attempts = [] ++ starts ∧ starts.getLast? = some begun ∧
      starts.length ≤ b.attemptLimit ∧
      (b.attemptLimit < 4294967296 → (Poll.counted starts.length).toNat = starts.length) ∧
      ∀ e, run.1 = .error e → Poll.MayFail "thing" b check (.fresh []) starts.length begun run.2.clock e) ∧
    run.2.clock < 0 + b.timeout.ticks + b.pause ∧
    (∀ m, (pollUntilReady "thing" b (fun _ => Step.attempt (α := Unit) ⟨0, .ok (.pending m)⟩) 0
      (.fresh [])).2.attempts.length = 0 + b.attemptLimit) ∧
    ∀ b ∈ Budget.standard, b.attemptLimit < 4294967296 :=
  ⟨by decide, poll_within_limits "thing" ⟨.ofMillis 1000, .ofMillis 1500⟩ (by decide) _ 0 (.fresh [])⟩

/-- By its interval alone, longer than the longest wait, this poll could make two attempts; it makes three. -/
theorem long_pauses_add_an_attempt :
    let b : Budget := ⟨.ofSecs 946080001, .ofSecs 946080001⟩
    let run := pollUntilReady (α := Unit) "w" b (fun _ => .done (.ok (.pending "p"))) 0 (.fresh [])
    b.timeout.ticks ⌈/⌉ b.interval.ticks + 1 = 2 ∧ run.2.attempts.length = 3 := by
  decide +kernel

end ClusterProbe
