/-
  ClusterProbe.Proofs.Asking — polls whose attempts send one request and judge the reply.

  The server's answers to the same request come in a known order, so that such a poll has
  a timetable too (`Timetable.asking`): attempt `k` takes what answer `k` takes, and ends
  the way its reply is judged. An attempt that begins with no time left sends nothing.

  - `asking_poll`: the first reply in time that is judged to decide the poll is its
    result; each attempt with time left sends the request once and gets the next answer;
    a further attempt begins exactly after a reply that is in time, has time left behind
    it and decides nothing, a pause later. A poll that nothing decides ends in a timeout,
    at the deadline or later, with what the last reply in time had to say.
-/

import Mathlib.Data.List.Basic
import ClusterProbe.Proofs.Pacing

namespace ClusterProbe

variable {α : Type}

namespace Poll

/-- What a look decides, if it does: the poll goes on only when nothing was found. -/
def decision : Except ProbeError (Readiness α) → Option (Except ProbeError α)
  | .error e => some (.error e)
  | .ok (.ready a) => some (.ok a)
  | .ok (.pending _) => none

def observation : Except ProbeError (Readiness α) → String
  | .ok (.pending m) => m
  | _ => notLooked

end Poll

/-- A poll that sends `q` in each attempt, seen from outside: `xs` are its exchanges and
`starts` the beginnings of its attempts. -/
structure AskingRun (what : String) (b : Budget) (q : Request) (judge : Reply → Except ProbeError (Readiness α))
    (w : World) (run : Except ProbeError α × World) (xs : List Exchange) (starts : List Nat) : Prop where
  exchanges : run.2.exchanges = w.exchanges ++ xs
  attempts : run.2.attempts = w.attempts ++ starts
  requests : ∀ x ∈ xs, x.request = q
  responses : xs.map (·.response) = (List.range xs.length).map (w.server.answer q)
  /-- An attempt that has time left sends the request at once. -/
  times : xs.map (·.time) = starts.filter (· < w.clock + b.timeout.ticks)
  first : starts[0]? = some w.clock
  next : ∀ i s, starts[i + 1]? = some s ↔ ∃ x, xs[i]? = some x ∧ x.arrival < w.clock + b.timeout.ticks ∧
    Poll.decision (judge x.reply) = none ∧ s = x.arrival + b.pause
  /-- A request is followed by another only if its reply is in time and decides nothing. -/
  followed : ∀ before x y after, xs = before ++ x :: y :: after →
    x.arrival < w.clock + b.timeout.ticks ∧ Poll.decision (judge x.reply) = none
  /-- Of the replies in time the first that decides is the result. -/
  result : match (xs.filter (·.arrival ≤ w.clock + b.timeout.ticks)).findSome? (Poll.decision <| judge ·.reply) with
    | some r => run.1 = r ∧ run.2.clock ≤ w.clock + b.timeout.ticks
    | none =>
      run.1 = .error (.timeout what b.timeout (Poll.counted starts.length)
        (((xs.filter (·.arrival ≤ w.clock + b.timeout.ticks)).getLast?.map (Poll.observation <| judge ·.reply)).getD
          Poll.notLooked)) ∧
      w.clock + b.timeout.ticks ≤ run.2.clock

namespace Timetable

/-- The timetable of a poll whose attempts get these answers, one after the other. -/
def asking (b : Budget) (timer : Timer) (answers : Nat → Response) (judge : Reply → Except ProbeError (Readiness α)) :
    Timetable α where
  budget := b
  timer := timer
  asks := true
  step k := some ⟨(answers (k - 1)).delay, judge (answers (k - 1)).reply⟩

/-- The exchange of attempt `k`, if it sends anything. -/
def exchange (t : Timetable α) (start : Nat) (q : Request) (answers : Nat → Response) (k : Nat) : Exchange :=
  ⟨start + t.begins k, q, answers (k - 1)⟩

variable {b : Budget} {timer : Timer} {answers : Nat → Response} {judge : Reply → Except ProbeError (Readiness α)}

@[simp] theorem budget_asking : (asking b timer answers judge).budget = b := rfl

@[simp] theorem timer_asking : (asking b timer answers judge).timer = timer := rfl

@[simp] theorem timeout_asking : (asking b timer answers judge).timeout = b.timeout.ticks := rfl

theorem span_asking (k : Nat) :
    (asking b timer answers judge).span k = min (answers (k - 1)).delay World.longestWait := rfl

theorem arrival_exchange (start : Nat) (q : Request) (k : Nat) :
    ((asking b timer answers judge).exchange start q answers k).arrival =
      start + (asking b timer answers judge).begins k + (asking b timer answers judge).span k := rfl

theorem asking_cut_iff {k : Nat} : (asking b timer answers judge).fate k = .cut ↔
    (asking b timer answers judge).left k < (asking b timer answers judge).span k ∨
      (asking b timer answers judge).left k = 0 := by
  rw [fate_cut_iff]
  simp [asking]

/-- A judgement that decides is the fate of its attempt, unless it is cut off. -/
theorem asking_fate {k : Nat} (h : (asking b timer answers judge).fate k ≠ .cut) :
    (asking b timer answers judge).fate k = match judge (answers (k - 1)).reply with
      | .error e => .failed e
      | .ok (.ready a) => .ready a
      | .ok (.pending m) =>
        if (asking b timer answers judge).timeout ≤
          (asking b timer answers judge).begins k + (asking b timer answers judge).span k
        then .expired m else .pending m :=
  fate_of_step rfl h

theorem describes_asking (b : Budget) (timer : Timer) (judge : Reply → Except ProbeError (Readiness α)) (start : Nat)
    (s : Server) (q : Request) :
    let t := asking b timer (s.answer q) judge
    t.Describes (fun _ => .request q fun r => .done (judge r)) start (fun k => s.after q (k - 1))
      fun k => if t.left k = 0 then [] else [.exchange (start + t.begins k) q (s.answer q (k - 1))] := by
  intro t
  have hserver : ∀ {k : Nat} {w : World}, 1 ≤ k → w.server = s.after q (k - 1) →
      w.exchange q =
        (s.answer q (k - 1), w.later w.clock (s.after q k) [.exchange w.clock q (s.answer q (k - 1))]) := by
    intro k w hk hs
    rw [World.exchange_eq_later hs, Nat.sub_add_cancel hk]
  refine ⟨fun k w hk hcut hc hs => ?_, fun k w hk hcut hc hs => ?_, fun k e he => ?_⟩
  · simp only [t, ne_eq, asking_cut_iff, not_or, Nat.not_lt] at hcut
    have hspan : min (s.answer q (k - 1)).delay World.longestWait ≤ t.left k := hcut.1
    have hgiven : min (s.answer q (k - 1)).delay World.longestWait ≤ t.timer.given (t.left k) := t.span_le_given hspan
    have hleft : ¬t.left k = 0 := hcut.2
    refine ⟨_, rfl, ?_⟩
    simp only [Attempt.run, Attempt.inTime, hserver hk hs]
    rw [if_neg (by have := t.timer.given_pos (Nat.pos_of_ne_zero hleft); omega),
      if_pos (by rw [World.later_clock]; omega), if_neg hleft]
    simp [World.pass_eq_later, hc, t, span_asking]
  · refine ⟨if t.left k = 0 then s.after q (k - 1) else s.after q k, ?_⟩
    by_cases hleft : t.left k = 0
    · simp only [Attempt.run, hleft]
      rw [if_pos (by simp), ← hc]
      simp [← hs]
    · have hgiven := t.timer.given_le (t.left k)
      have hspan : t.left k < min (s.answer q (k - 1)).delay World.longestWait :=
        (asking_cut_iff.mp hcut).resolve_right hleft
      simp only [Attempt.run, Attempt.inTime, hserver hk hs]
      rw [if_neg (by have := t.timer.given_pos (Nat.pos_of_ne_zero hleft); omega),
        if_neg (by rw [World.later_clock]; omega), if_neg hleft, if_neg hleft]
      simp [World.advanceTo, World.later, hc]
  · split at he
    · cases he
    · rw [List.mem_singleton] at he
      subst he
      exact ⟨rfl, rfl⟩

/-! ## Which attempts send, and which are answered in time -/

variable {start : Nat} {q : Request} {n k : Nat}

/-- An exchange that takes place is answered in time just when its attempt is not cut off. -/
theorem arrival_le_iff (start : Nat) (q : Request) {k : Nat} (hk : (asking b timer answers judge).left k ≠ 0) :
    ((asking b timer answers judge).exchange start q answers k).arrival ≤ start + b.timeout.ticks ↔
      (asking b timer answers judge).fate k ≠ .cut := by
  rw [ne_eq, asking_cut_iff, arrival_exchange]
  simp only [left, timeout_asking] at hk ⊢
  omega

theorem decision_of_pending {m : String} (h : (asking b timer answers judge).fate k = .pending m) :
    judge (answers (k - 1)).reply = .ok (.pending m) := by
  obtain ⟨s, hs, hr, -⟩ := fate_of_pending h
  cases hs
  exact hr

/-- An attempt that is heard and decides nothing ends the poll only if the time is up. -/
theorem pending_iff (start : Nat) (q : Request) {k : Nat} :
    (∃ m, (asking b timer answers judge).fate k = .pending m) ↔
      ((asking b timer answers judge).exchange start q answers k).arrival < start + b.timeout.ticks ∧
        Poll.decision (judge (answers (k - 1)).reply) = none := by
  rw [arrival_exchange]
  constructor
  · rintro ⟨m, hm⟩
    have := lt_timeout_of_pending hm
    rw [timeout_asking] at this
    refine ⟨by omega, ?_⟩
    rw [decision_of_pending hm]
    rfl
  · rintro ⟨hlt, hnone⟩
    have hcut : (asking b timer answers judge).fate k ≠ .cut := by
      rw [ne_eq, asking_cut_iff]
      simp only [left, timeout_asking]
      omega
    have hfate := asking_fate hcut
    rcases hj : judge (answers (k - 1)).reply with e | a | m <;> simp only [hj] at hfate hnone
    · cases hnone
    · cases hnone
    · refine ⟨m, ?_⟩
      rw [hfate, if_neg]
      rw [timeout_asking]
      omega

/-- The exchanges of the first `m` attempts. -/
def passed (t : Timetable α) (start : Nat) (q : Request) (answers : Nat → Response) (m : Nat) : List Exchange :=
  (List.range m).map fun i => t.exchange start q answers (i + 1)

/-- What the attempts of a poll send, the last of them being attempt `m + 1`. -/
def sent (t : Timetable α) (start : Nat) (q : Request) (answers : Nat → Response) (m : Nat) : List Exchange :=
  t.passed start q answers m ++
    if t.left (m + 1) = 0 then [] else [t.exchange start q answers (m + 1)]

theorem sent_getElem? {t : Timetable α} {answers : Nat → Response} {m i : Nat} {x : Exchange} :
    (t.sent start q answers m)[i]? = some x ↔
      (i < m ∨ i = m ∧ t.left (m + 1) ≠ 0) ∧ x = t.exchange start q answers (i + 1) := by
  unfold sent passed
  rcases Nat.lt_trichotomy i m with h | rfl | h
  · rw [List.getElem?_append_left (by simpa using h)]
    simp [h, eq_comm]
  · rw [List.getElem?_append_right (by simp)]
    by_cases h : t.left (i + 1) = 0 <;> simp [h, eq_comm]
  · rw [List.getElem?_append_right (by simp; omega)]
    by_cases h' : t.left (m + 1) = 0
    · simp [h', show ¬i < m by omega]
    · simp [h', show ¬i < m by omega, show i ≠ m by omega, show i - m ≠ 0 by omega]

theorem sent_map_response {t : Timetable α} {answers : Nat → Response} {m : Nat} :
    (t.sent start q answers m).map (·.response) = (List.range (t.sent start q answers m).length).map answers := by
  by_cases h : t.left (m + 1) = 0
  · simp [sent, passed, h, exchange]
  · simp [sent, passed, h, exchange, List.range_succ]

variable {m : Nat}

theorem Last.left_ne_zero {t : Timetable α} (h : t.Last (m + 1)) (hk : 1 ≤ k) (hkm : k ≤ m) : t.left k ≠ 0 := by
  have := h.begins_lt hk (by omega)
  simp only [left]
  omega

theorem sent_eq_flatMap {t : Timetable α} {answers : Nat → Response} (h : t.Last (m + 1)) :
    (List.range' 1 (m + 1)).flatMap (fun k => (if t.left k = 0 then []
      else [Event.exchange (start + t.begins k) q (answers (k - 1))]).filterMap Event.exchange?) =
    t.sent start q answers m := by
  rw [List.range'_1_concat, List.flatMap_append, Nat.add_comm 1 m]
  congr 1
  · rw [passed, List.range'_eq_map_range, List.flatMap_map, List.map_eq_flatMap]
    refine List.flatMap_congr fun i hi => ?_
    rw [List.mem_range] at hi
    rw [Nat.add_comm 1 i, if_neg (h.left_ne_zero (by omega) (by omega))]
    rfl
  · by_cases hm : t.left (m + 1) = 0 <;> simp [hm, Event.exchange?, exchange]

theorem sent_map_time {t : Timetable α} {answers : Nat → Response} (h : t.Last (m + 1)) :
    (t.sent start q answers m).map (·.time) =
      ((List.range' 1 (m + 1)).map (start + t.begins ·)).filter (· < start + t.timeout) := by
  rw [List.range'_1_concat, List.map_append, List.filter_append, Nat.add_comm 1 m, sent, List.map_append]
  congr 1
  · rw [List.filter_eq_self.mpr, passed, List.range'_eq_map_range, List.map_map, List.map_map]
    · refine List.map_congr_left fun i _ => ?_
      simp [exchange, Nat.add_comm]
    · intro s hs
      obtain ⟨k, hk, rfl⟩ := List.mem_map.mp hs
      rw [List.mem_range'_1] at hk
      have := h.begins_lt hk.1 (by omega)
      simpa
  · by_cases hm : t.left (m + 1) = 0
    · have : ¬t.begins (m + 1) < t.timeout := by simp only [left] at hm; omega
      simp [hm, this]
    · have : t.begins (m + 1) < t.timeout := by simp only [left] at hm; omega
      simp [hm, this, exchange]

theorem starts_getElem? (f : Nat → Nat) {i s : Nat} :
    ((List.range' 1 n).map f)[i]? = some s ↔ i < n ∧ s = f (i + 1) := by
  rw [List.getElem?_map]
  by_cases hi : i < n
  · simp [hi, Nat.add_comm 1, eq_comm]
  · rw [List.getElem?_eq_none (by simpa using hi)]
    simp [hi]

/-- A further attempt begins a pause after each reply that leaves the poll pending. -/
theorem sent_next (h : (asking b timer answers judge).Last (m + 1)) (i s : Nat) :
    ((List.range' 1 (m + 1)).map (start + (asking b timer answers judge).begins ·))[i + 1]? = some s ↔
      ∃ x, ((asking b timer answers judge).sent start q answers m)[i]? = some x ∧ x.arrival < start + b.timeout.ticks ∧
        Poll.decision (judge x.reply) = none ∧ s = x.arrival + b.pause := by
  have hbegins : start + (asking b timer answers judge).begins (i + 2) =
      ((asking b timer answers judge).exchange start q answers (i + 1)).arrival + b.pause := by
    rw [begins_succ _ (by omega), arrival_exchange]
    simp only [pause, asking]
    omega
  rw [starts_getElem?]
  constructor
  · rintro ⟨hi, rfl⟩
    obtain ⟨hlt, hnone⟩ := (pending_iff start q).mp (h.pending (k := i + 1) (by omega) (by omega))
    exact ⟨_, sent_getElem?.mpr ⟨.inl (by omega), rfl⟩, hlt, hnone, hbegins⟩
  · rintro ⟨x, hx, hlt, hnone, rfl⟩
    obtain ⟨hi, rfl⟩ := sent_getElem?.mp hx
    have hne : i ≠ m := by
      rintro rfl
      exact ((pending_iff start q).mpr ⟨hlt, hnone⟩).elim h.1.2
    exact ⟨by omega, hbegins.symm⟩

/-! ## The replies in time -/

/-- An attempt before the last one gets a reply in time that decides nothing. -/
theorem mem_passed (h : (asking b timer answers judge).Last (m + 1)) {x : Exchange}
    (hx : x ∈ (asking b timer answers judge).passed start q answers m) :
    x.arrival < start + b.timeout.ticks ∧ Poll.decision (judge x.reply) = none := by
  obtain ⟨i, hi, rfl⟩ := List.mem_map.mp hx
  rw [List.mem_range] at hi
  exact (pending_iff start q).mp (h.pending (by omega) (by omega))

theorem filter_passed (h : (asking b timer answers judge).Last (m + 1)) :
    ((asking b timer answers judge).passed start q answers m).filter (·.arrival ≤ start + b.timeout.ticks) =
      (asking b timer answers judge).passed start q answers m :=
  List.filter_eq_self.mpr fun _ hx => by simpa using (mem_passed h hx).1.le

theorem findSome?_passed (h : (asking b timer answers judge).Last (m + 1)) :
    ((asking b timer answers judge).passed start q answers m).findSome? (Poll.decision <| judge ·.reply) = none :=
  List.findSome?_eq_none_iff.mpr fun _ hx => (mem_passed h hx).2

/-- What is remembered when the last attempt begins is what the reply before it had to say. -/
theorem observedBefore_eq (h : (asking b timer answers judge).Last (m + 1)) :
    (asking b timer answers judge).observedBefore (m + 1) =
      ((((asking b timer answers judge).passed start q answers m).getLast?.map (Poll.observation <| judge ·.reply)).getD
        Poll.notLooked) := by
  cases m with
  | zero => rfl
  | succ m =>
    obtain ⟨x, hx⟩ := h.pending (k := m + 1) (by omega) (by omega)
    have hj : judge ((asking b timer answers judge).exchange start q answers (m + 1)).reply = .ok (.pending x) :=
      decision_of_pending hx
    rw [observedBefore_succ (by omega) hx, passed, List.range_succ, List.map_append, List.map_singleton,
      List.getLast?_concat]
    simp [hj, Poll.observation]

theorem sent_followed (h : (asking b timer answers judge).Last (m + 1)) {before after : List Exchange} {x y : Exchange}
    (hxs : (asking b timer answers judge).sent start q answers m = before ++ x :: y :: after) :
    x.arrival < start + b.timeout.ticks ∧ Poll.decision (judge x.reply) = none := by
  have hx : ((asking b timer answers judge).sent start q answers m)[before.length]? = some x := by simp [hxs]
  have hy : ((asking b timer answers judge).sent start q answers m)[before.length + 1]? = some y := by simp [hxs]
  obtain ⟨-, rfl⟩ := sent_getElem?.mp hx
  obtain ⟨hi, -⟩ := sent_getElem?.mp hy
  exact mem_passed h (List.mem_map.mpr ⟨before.length, by rw [List.mem_range]; omega, rfl⟩)

/-- Cut off without a reply in time, the last attempt leaves the poll with what the others had to say. -/
theorem sent_of_cut (h : (asking b timer answers judge).Last (m + 1))
    (hcut : (asking b timer answers judge).fate (m + 1) = .cut) :
    ((asking b timer answers judge).sent start q answers m).filter (·.arrival ≤ start + b.timeout.ticks) =
      (asking b timer answers judge).passed start q answers m := by
  rw [sent, List.filter_append, filter_passed h]
  by_cases hm : (asking b timer answers judge).left (m + 1) = 0
  · simp [hm]
  · have := mt (arrival_le_iff start q hm).mp (not_not.mpr hcut)
    simp [hm, this]

theorem sent_of_heard (h : (asking b timer answers judge).Last (m + 1))
    (hcut : (asking b timer answers judge).fate (m + 1) ≠ .cut) :
    ((asking b timer answers judge).sent start q answers m).filter (·.arrival ≤ start + b.timeout.ticks) =
      (asking b timer answers judge).passed start q answers m ++
        [(asking b timer answers judge).exchange start q answers (m + 1)] := by
  have hm : (asking b timer answers judge).left (m + 1) ≠ 0 := by
    rw [ne_eq, asking_cut_iff, not_or] at hcut
    exact hcut.2
  rw [sent, List.filter_append, filter_passed h]
  simp [hm, (arrival_le_iff start q hm).mpr hcut]

theorem timeout_le_finish_of_cut {k : Nat} (hcut : (asking b timer answers judge).fate k = .cut) :
    b.timeout.ticks ≤ (asking b timer answers judge).finish k := by
  have hlong := asking_cut_iff.mp hcut
  have hspan : (asking b timer answers judge).span k ≤ World.longestWait := Nat.min_le_right _ _
  have hgiven : timer.given ((asking b timer answers judge).left k) = (asking b timer answers judge).left k :=
    timer.given_of_le (by omega)
  simp only [finish, hcut, timer_asking, hgiven]
  simp only [left, timeout_asking]
  omega

/-- Of the replies in time the first that decides is the result. -/
theorem sent_result (start : Nat) (q : Request) (h : (asking b timer answers judge).Last (m + 1)) (what : String) :
    let heard := ((asking b timer answers judge).sent start q answers m).filter (·.arrival ≤ start + b.timeout.ticks)
    match heard.findSome? (Poll.decision <| judge ·.reply) with
    | some r => (asking b timer answers judge).outcome what (m + 1) = r ∧
        (asking b timer answers judge).finish (m + 1) ≤ b.timeout.ticks
    | none => (asking b timer answers judge).outcome what (m + 1) =
          .error (.timeout what b.timeout (Poll.counted (m + 1))
            ((heard.getLast?.map (Poll.observation <| judge ·.reply)).getD Poll.notLooked)) ∧
        b.timeout.ticks ≤ (asking b timer answers judge).finish (m + 1) := by
  intro heard
  by_cases hcut : (asking b timer answers judge).fate (m + 1) = .cut
  · have hheard : heard = (asking b timer answers judge).passed start q answers m := sent_of_cut h hcut
    rw [hheard, findSome?_passed h, ← observedBefore_eq h]
    exact ⟨by simp [outcome, hcut], timeout_le_finish_of_cut hcut⟩
  · have hheard : heard = (asking b timer answers judge).passed start q answers m ++
        [(asking b timer answers judge).exchange start q answers (m + 1)] := sent_of_heard h hcut
    have hfate := asking_fate hcut
    have hends : (asking b timer answers judge).begins (m + 1) + (asking b timer answers judge).span (m + 1) ≤
        b.timeout.ticks := by
      simp only [asking_cut_iff, left, timeout_asking] at hcut
      omega
    rw [hheard, List.findSome?_append, findSome?_passed h, Option.none_or, List.findSome?_singleton,
      List.getLast?_concat]
    rcases hj : judge (answers m).reply with e | a | x <;> simp only [Nat.add_sub_cancel, hj] at hfate
    · simpa [exchange, Exchange.reply, hj, Poll.decision, outcome, finish, hfate] using hends
    · simpa [exchange, Exchange.reply, hj, Poll.decision, outcome, finish, hfate] using hends
    · have htime : b.timeout.ticks ≤
          (asking b timer answers judge).begins (m + 1) + (asking b timer answers judge).span (m + 1) := by
        by_contra hc
        exact h.1.2 x (by rw [hfate, timeout_asking, if_neg hc])
      rw [timeout_asking, if_pos htime] at hfate
      simpa [exchange, Exchange.reply, hj, Poll.decision, Poll.observation, outcome, finish, hfate] using htime

end Timetable

namespace AskingRun

variable {what : String} {b : Budget} {q : Request} {judge : Reply → Except ProbeError (Readiness α)} {w : World}
  {run : Except ProbeError α × World} {xs : List Exchange} {starts : List Nat}

theorem clock_le_of_ok (h : AskingRun what b q judge w run xs starts) {a : α} (ha : run.1 = .ok a) :
    run.2.clock ≤ w.clock + b.timeout.ticks := by
  have hresult := h.result
  split at hresult
  · exact hresult.2
  · rw [ha] at hresult
    exact nomatch hresult.1

theorem exists_answer (h : AskingRun what b q judge w run xs starts) {x : Exchange} (hx : x ∈ xs) :
    ∃ k, x.response = w.server.answer q k := by
  have hresponse : x.response ∈ xs.map (·.response) := List.mem_map_of_mem hx
  rw [h.responses] at hresponse
  obtain ⟨k, -, hk⟩ := List.mem_map.mp hresponse
  exact ⟨k, hk.symm⟩

/-- A reply in time that decides is the last one, and the result. -/
theorem result_of_decides (h : AskingRun what b q judge w run xs starts) {x : Exchange} {r : Except ProbeError α}
    (hx : x ∈ xs) (htime : x.arrival ≤ w.clock + b.timeout.ticks) (hr : Poll.decision (judge x.reply) = some r) :
    run.1 = r ∧ xs.getLast? = some x := by
  obtain ⟨before, after, rfl⟩ := List.append_of_mem hx
  have hlast : after = [] := by
    rcases after with _ | ⟨y, after⟩
    · rfl
    · rw [(h.followed before x y after rfl).2] at hr
      cases hr
  subst hlast
  have hbefore : (before.filter (·.arrival ≤ w.clock + b.timeout.ticks)).findSome?
      (Poll.decision <| judge ·.reply) = none := by
    refine List.findSome?_eq_none_iff.mpr fun y hy => ?_
    obtain ⟨front, back, rfl⟩ := List.append_of_mem (List.mem_of_mem_filter hy)
    rcases back with _ | ⟨z, back⟩
    · exact (h.followed front y x [] (by simp)).2
    · exact (h.followed front y z (back ++ [x]) (by simp)).2
  have hresult := h.result
  simp only [List.filter_append, List.findSome?_append, hbefore, Option.none_or] at hresult
  simp only [List.filter_cons, htime, decide_true, if_true, List.filter_nil, List.findSome?_cons, hr] at hresult
  exact ⟨hresult.1, by simp⟩

theorem decides_of_ok (h : AskingRun what b q judge w run xs starts) {a : α} (ha : run.1 = .ok a) :
    ∃ x, xs.getLast? = some x ∧ x.arrival ≤ w.clock + b.timeout.ticks ∧
      Poll.decision (judge x.reply) = some (.ok a) := by
  have hresult := h.result
  split at hresult
  · rename_i r hfirst
    obtain ⟨x, hx, hr⟩ := List.exists_of_findSome?_eq_some hfirst
    rw [List.mem_filter, decide_eq_true_eq] at hx
    rw [← hresult.1, ha] at hr
    exact ⟨x, (h.result_of_decides hx.1 hx.2 hr).2, hx.2, hr⟩
  · rw [ha] at hresult
    exact nomatch hresult.1

/-- What is logged before and after the poll does not count. -/
theorem of_unlogged (h : AskingRun what b q judge w run xs starts) {w' : World} {run' : Except ProbeError α × World}
    (hw : w'.unlogged = w.unlogged) (hresult : run'.1 = run.1) (hrun : run'.2.unlogged = run.2.unlogged) :
    AskingRun what b q judge w' run' xs starts := by
  have hclock : w'.clock = w.clock := show w'.unlogged.clock = w.unlogged.clock by rw [hw]
  have hserver : w'.server = w.server := show w'.unlogged.server = w.unlogged.server by rw [hw]
  have hend : run'.2.clock = run.2.clock := show run'.2.unlogged.clock = run.2.unlogged.clock by rw [hrun]
  have hexchanges : w'.exchanges = w.exchanges := by rw [← World.exchanges_unlogged, hw, World.exchanges_unlogged]
  have hattempts : w'.attempts = w.attempts := by rw [← World.attempts_unlogged, hw, World.attempts_unlogged]
  refine ⟨?_, ?_, h.requests, hserver ▸ h.responses, hclock ▸ h.times, hclock ▸ h.first, hclock ▸ h.next,
    hclock ▸ h.followed, by rw [hclock, hresult, hend]; exact h.result⟩
  · rw [hexchanges, ← h.exchanges, ← World.exchanges_unlogged, hrun, World.exchanges_unlogged]
  · rw [hattempts, ← h.attempts, ← World.attempts_unlogged, hrun, World.attempts_unlogged]

end AskingRun

/-- Whatever the server has to say, a poll that asks it goes as told: `AskingRun`. -/
theorem asking_poll (what : String) {b : Budget} (hb : 0 < b.interval.ticks) (q : Request)
    (judge : Reply → Except ProbeError (Readiness α)) (spare : Nat) (w : World) :
    ∃ xs starts, AskingRun what b q judge w
      (pollUntilReady what b (fun _ => .request q fun r => .done (judge r)) spare w) xs starts := by
  have hp : 0 < (Timetable.asking b w.timer (w.server.answer q) judge).pause := Budget.pause_pos hb
  obtain ⟨n, hn, hresult, hattempts, -, hexchanges, hclock⟩ := Timetable.pollUntilReady_views
    (Timetable.describes_asking b w.timer judge w.clock w.server q) hp rfl rfl what spare
  obtain ⟨m, rfl⟩ : ∃ m, n = m + 1 := ⟨n - 1, by have := hn.pos; omega⟩
  rw [Timetable.sent_eq_flatMap hn] at hexchanges
  refine ⟨_, _, hexchanges, hattempts, ?_, Timetable.sent_map_response, Timetable.sent_map_time hn, by simp,
    Timetable.sent_next hn, fun _ _ _ _ => Timetable.sent_followed hn, ?_⟩
  · intro x hx
    obtain ⟨i, hi⟩ := List.getElem?_of_mem hx
    rw [(Timetable.sent_getElem?.mp hi).2]
    rfl
  · have hends := Timetable.sent_result w.clock q hn what
    rw [Timetable.budget_asking] at hresult hclock
    rw [hresult, hclock, List.length_map, List.length_range']
    dsimp only at hends
    split at hends
    · exact ⟨hends.1, by omega⟩
    · exact ⟨hends.1, by omega⟩

end ClusterProbe
