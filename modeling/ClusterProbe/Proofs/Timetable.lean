/-
  ClusterProbe.Proofs.Timetable — what a poll is going to do, worked out beforehand.

  A poll whose attempts are known, how long each takes and how it ends, has a timetable:
  attempt 1 begins at once, and each further one a pause after the end of the one before
  (`begins`, in ticks since the poll began). An attempt that needs more than the time
  left is cut off; one that finds nothing ends the poll if it ends at the timeout or
  after it (`fate`). The first attempt after which the poll does not go on is its last
  (`Ends`), and decides the result, the log and the time it takes.

  Proved, for a pause that takes time:
  - `exists_last`: there is a last attempt, and at most as many before it as the timeout
    has ticks.
  - `begins_le_begins`, `lt_timeout_of_pending`: attempts are in order and do not overlap,
    and all but the last end before the timeout.
-/

import Mathlib.Data.Nat.Find
import Mathlib.Order.Bounds.Basic
import ClusterProbe.Session.Poll

namespace ClusterProbe

namespace Budget

/-- The time between two attempts; no pause is longer than the longest wait. -/
def pause (b : Budget) : Nat := min b.interval.ticks World.longestWait

theorem pause_pos {b : Budget} (hb : 0 < b.interval.ticks) : 0 < b.pause := by
  simp only [pause, World.longestWait]
  omega

end Budget

/-- How an attempt ends, and with it perhaps the poll. -/
inductive Fate (α : Type) where
  | cut
  | failed (e : ProbeError)
  | ready (found : α)
  /-- Nothing was found, and the time is up. -/
  | expired (observed : String)
  /-- Nothing was found; the poll goes on. -/
  | pending (observed : String)

/-- The attempts of a poll, counted from 1; one without a step never ends. -/
structure Timetable (α : Type) where
  budget : Budget
  timer : Timer
  step : Nat → Option (Step α)
  /-- Every attempt asks somebody: with no time left it is cut off whatever it takes. -/
  asks : Bool := false

namespace Timetable

variable {α : Type} (t : Timetable α)

def timeout : Nat := t.budget.timeout.ticks

def pause : Nat := t.budget.pause

/-- How long an attempt takes that ends; no step is longer than the longest wait. -/
def span (k : Nat) : Nat := ((t.step k).map fun s => min s.delay World.longestWait).getD 0

/-- When attempt `k` begins, since the beginning of attempt 1. -/
def begins : Nat → Nat
  | 0 | 1 => 0
  | k + 2 => begins (k + 1) + t.span (k + 1) + t.pause

/-- What an attempt has left when it begins; nothing after the timeout. -/
def left (k : Nat) : Nat := t.timeout - t.begins k

def fate (k : Nat) : Fate α :=
  match t.step k with
  | none => .cut
  | some s =>
    if t.left k < t.span k ∨ (t.asks ∧ t.left k = 0) then .cut
    else match s.result with
      | .error e => .failed e
      | .ok (.ready a) => .ready a
      | .ok (.pending m) => if t.timeout ≤ t.begins k + t.span k then .expired m else .pending m

/-- The poll does not go on after attempt `k`. -/
def Ends (k : Nat) : Prop := ∀ m, t.fate k ≠ .pending m

/-- Attempt `n` is the first that ends the poll. -/
def Last (n : Nat) : Prop := IsLeast {k | 1 ≤ k ∧ t.Ends k} n

/-- What was observed last before attempt `k`. -/
def observedBefore : Nat → String
  | 0 | 1 => Poll.notLooked
  | k + 2 =>
    match t.fate (k + 1) with
    | .pending m => m
    | _ => Poll.notLooked

/-! ## What comes of it -/

/-- The result of a poll that attempt `n` ends. -/
def outcome (what : String) (n : Nat) : Except ProbeError α :=
  match t.fate n with
  | .cut => .error (.timeout what t.budget.timeout (Poll.counted n) (t.observedBefore n))
  | .failed e => .error e
  | .ready a => .ok a
  | .expired m | .pending m => .error (.timeout what t.budget.timeout (Poll.counted n) m)

/-- What is logged at the end of attempt `k`; nothing if it fails. -/
def lines (what : String) (k : Nat) : List (Level × String) :=
  match t.fate k with
  | .cut => [(.debug, "Attempt " ++ toString (Poll.counted k) ++ " for " ++ what ++ " still running at the deadline")]
  | .failed _ => []
  | .ready _ => [(.info, what ++ " is ready after " ++ toString (Poll.counted k) ++ " attempt(s)")]
  | .expired m | .pending m => [(.debug, "Waiting for " ++ what ++ ": " ++ m ++ ", retrying...")]

/-- When attempt `k` is over, cut off or not. -/
def finish (k : Nat) : Nat :=
  match t.fate k with
  | .cut => t.begins k + t.timer.given (t.left k)
  | _ => t.begins k + t.span k

/-! ## Attempts in order -/

@[simp] theorem begins_one : t.begins 1 = 0 := rfl

theorem begins_succ {k : Nat} (hk : 1 ≤ k) : t.begins (k + 1) = t.begins k + t.span k + t.pause := by
  cases k with
  | zero => omega
  | succ k => rfl

theorem begins_le_begins {j k : Nat} (hj : 1 ≤ j) (hjk : j < k) : t.begins j + t.span j + t.pause ≤ t.begins k := by
  induction k with
  | zero => omega
  | succ k ih =>
    rcases Nat.lt_succ_iff_lt_or_eq.mp hjk with h | rfl
    · rw [t.begins_succ (by omega)]
      have := ih h
      omega
    · rw [t.begins_succ hj]

/-- However short the attempts, the pauses add up. -/
theorem pauses_le_begins (k : Nat) : k * t.pause ≤ t.begins (k + 1) := by
  induction k with
  | zero => simp
  | succ k ih =>
    rw [t.begins_succ (by omega), Nat.succ_mul]
    omega

/-! ## Fates -/

variable {t}

theorem fate_of_pending {k : Nat} {m : String} (h : t.fate k = .pending m) :
    ∃ s, t.step k = some s ∧ s.result = .ok (.pending m) ∧ t.begins k + t.span k < t.timeout := by
  unfold fate at h
  split at h
  · cases h
  · rename_i s hs
    split at h
    · cases h
    · split at h
      · cases h
      · cases h
      · rename_i hm
        split at h
        · cases h
        · cases h
          exact ⟨s, hs, hm, by omega⟩

theorem lt_timeout_of_pending {k : Nat} {m : String} (h : t.fate k = .pending m) :
    t.begins k + t.span k < t.timeout := (fate_of_pending h).choose_spec.2.2

/-- An attempt is cut off when it never ends, needs more than is left, or asks with
nothing left. -/
theorem fate_cut_iff {k : Nat} : t.fate k = .cut ↔
    ∀ s, t.step k = some s → t.left k < t.span k ∨ (t.asks = true ∧ t.left k = 0) := by
  unfold fate
  split
  · rename_i hs
    simp [hs]
  · rename_i s hs
    simp only [hs, Option.some.injEq, forall_eq']
    split
    · simpa
    · rename_i hc
      refine ⟨fun h => ?_, fun h => absurd h hc⟩
      split at h
      · cases h
      · cases h
      · split at h <;> cases h

/-- What the step found decides the fate of an attempt that is not cut off. -/
theorem fate_of_step {k : Nat} {s : Step α} (hs : t.step k = some s) (hc : t.fate k ≠ .cut) :
    t.fate k = match s.result with
      | .error e => .failed e
      | .ok (.ready a) => .ready a
      | .ok (.pending m) => if t.timeout ≤ t.begins k + t.span k then .expired m else .pending m := by
  unfold fate at hc ⊢
  simp only [hs] at hc ⊢
  split
  · rename_i h
    simp [h] at hc
  · rfl

theorem span_le_left {k : Nat} (h : t.fate k ≠ .cut) : t.span k ≤ t.left k := by
  simp only [ne_eq, fate_cut_iff, not_forall, not_or] at h
  obtain ⟨_, _, h, _⟩ := h
  omega

/-- What fits in the time left is not cut off early either. -/
theorem span_le_given (t : Timetable α) {k : Nat} (h : t.span k ≤ t.left k) : t.span k ≤ t.timer.given (t.left k) := by
  have hspan : t.span k ≤ World.longestWait := by
    unfold span
    cases t.step k with
    | none => exact Nat.zero_le _
    | some s => exact Nat.min_le_right _ _
  exact Nat.le_trans (Nat.le_min.mpr ⟨h, hspan⟩) (t.timer.le_given _)

theorem observedBefore_succ {k : Nat} {m : String} (hk : 1 ≤ k) (h : t.fate k = .pending m) :
    t.observedBefore (k + 1) = m := by
  cases k with
  | zero => omega
  | succ k => simp [observedBefore, h]

/-! ## The last attempt -/

theorem ends_of_timeout_le {k : Nat} (h : t.timeout ≤ t.begins k) : t.Ends k := by
  intro m hm
  have := lt_timeout_of_pending hm
  omega

/-- With pauses that take time, there is a last attempt. -/
theorem exists_last (hp : 0 < t.pause) : ∃ n, t.Last n ∧ n ≤ t.timeout + 1 := by
  classical
  have hlate : t.Ends (t.timeout + 1) := by
    apply ends_of_timeout_le
    calc t.timeout ≤ t.timeout * t.pause := Nat.le_mul_of_pos_right _ hp
      _ ≤ t.begins (t.timeout + 1) := t.pauses_le_begins _
  have hex : ∃ k, 1 ≤ k ∧ t.Ends k := ⟨t.timeout + 1, by omega, hlate⟩
  refine ⟨Nat.find hex, ⟨Nat.find_spec hex, fun k hk => Nat.find_min' hex hk⟩, ?_⟩
  exact Nat.find_min' hex ⟨by omega, hlate⟩

theorem Last.pos {n : Nat} (h : t.Last n) : 1 ≤ n := h.1.1

/-- Before the last attempt, every attempt leaves the poll pending. -/
theorem Last.pending {n k : Nat} (h : t.Last n) (hk : 1 ≤ k) (hkn : k < n) : ∃ m, t.fate k = .pending m := by
  by_contra hc
  have : n ≤ k := h.2 ⟨hk, fun m hm => hc ⟨m, hm⟩⟩
  omega

theorem Last.begins_lt {n k : Nat} (h : t.Last n) (hk : 1 ≤ k) (hkn : k < n) : t.begins k < t.timeout := by
  obtain ⟨m, hm⟩ := h.pending hk hkn
  have := lt_timeout_of_pending hm
  omega

end Timetable

end ClusterProbe
