/-
  ClusterProbe.Proofs.Deadlines — polls that ask the server keep their deadlines.

  An attempt with time left sends its request when it begins, and one without sends
  nothing. Only the last attempt of a poll can be of the second kind (`starts_cases`), so
  that the attempts and the requests of a poll tell of each other.

  - `polls_keep_deadlines`: no request reaches the server at the deadline or later, each
    comes a pause after the answer to the one before, what is decided is decided in time,
    and a poll that runs out of time has sent a request in each attempt but a last one
    that began too late. This holds of a poll for an object and of the wait for a deleted
    one to be gone, which counts its time from the answer to the deletion.
  - `request_before_interval_is_over`: beyond the longest wait the pause is shorter than
    the interval.
-/

import ClusterProbe.Proofs.Confirmation

namespace ClusterProbe

variable {α : Type}

/-- A poll that sends `q` in its attempts is in time: `xs` are its exchanges and `starts` the
beginnings of its attempts. -/
structure KeepsDeadline (b : Budget) (q : Request) (w : World) (run : Except ProbeError α × World)
    (xs : List Exchange) (starts : List Nat) : Prop where
  exchanges : run.2.exchanges = w.exchanges ++ xs
  attempts : run.2.attempts = w.attempts ++ starts
  requests : ∀ x ∈ xs, x.request = q
  sent : ∀ x ∈ xs, x.time < w.clock + b.timeout.ticks
  /-- A request comes a pause after the answer to the one before. -/
  apart : ∀ before x y after, xs = before ++ x :: y :: after → x.arrival + b.pause ≤ y.time
  found : ∀ a, run.1 = .ok a → run.2.clock ≤ w.clock + b.timeout.ticks
  refused : ∀ what e, run.1 = .error (.fetch what e) → run.2.clock ≤ w.clock + b.timeout.ticks
  /-- Out of time, each attempt has sent a request but a last one that began with no time left. -/
  counted : ∀ what timeout n m, run.1 = .error (.timeout what timeout n m) →
    n = Poll.counted starts.length ∧ (starts.length < 4294967296 → n.toNat = starts.length) ∧
      ∃ begun, starts.getLast? = some begun ∧
        if begun < w.clock + b.timeout.ticks then xs.length = starts.length else xs.length + 1 = starts.length

theorem Poll.decision_eq_error_iff {j : Except ProbeError (Readiness α)} {e : ProbeError} :
    Poll.decision j = some (.error e) ↔ j = .error e := by
  rcases j with _ | _ | _ <;> simp [Poll.decision]

namespace AskingRun

variable {what : String} {b : Budget} {q : Request} {judge : Reply → Except ProbeError (Readiness α)} {w : World}
  {run : Except ProbeError α × World} {xs : List Exchange} {starts : List Nat}

theorem length_starts_le (h : AskingRun what b q judge w run xs starts) : starts.length ≤ xs.length + 1 := by
  by_contra hc
  obtain ⟨x, hx, -⟩ := (h.next xs.length _).mp (List.getElem?_eq_getElem (Nat.lt_of_not_le hc))
  simp at hx

/-- Every attempt sends a request when it begins, but for a last one that begins at the deadline or later. -/
theorem starts_cases (h : AskingRun what b q judge w run xs starts) (hp : 0 < b.pause) :
    starts = xs.map (·.time) ∨
      ∃ late, w.clock + b.timeout.ticks ≤ late ∧ starts = xs.map (·.time) ++ [late] := by
  by_cases hall : ∀ s ∈ starts, s < w.clock + b.timeout.ticks
  · left
    rw [h.times, List.filter_eq_self.mpr (by simpa using hall)]
  · right
    obtain ⟨late, hmem, hlate⟩ : ∃ late ∈ starts, w.clock + b.timeout.ticks ≤ late := by simpa using hall
    obtain ⟨before, after, rfl⟩ := List.append_of_mem hmem
    have htimes := h.times
    rw [List.filter_append, List.filter_cons_of_neg (by simpa using hlate)] at htimes
    -- The requests are only one fewer than the attempts: there is no second late attempt.
    have hlength : before.length + after.length ≤ (before.filter (· < w.clock + b.timeout.ticks)).length +
        (after.filter (· < w.clock + b.timeout.ticks)).length := by
      have hle := h.length_starts_le
      have hsent := congrArg List.length htimes
      simp only [List.length_map, List.length_append, List.length_cons] at hle hsent
      omega
    have hbefore := List.length_filter_le (· < w.clock + b.timeout.ticks) before
    have hafter := List.length_filter_le (· < w.clock + b.timeout.ticks) after
    rw [List.filter_eq_self.mpr (List.length_filter_eq_length_iff.mp (by omega)),
      List.filter_eq_self.mpr (List.length_filter_eq_length_iff.mp (by omega))] at htimes
    -- An attempt after the late one would have sent its request before the answer that it waited for.
    rcases after with _ | ⟨s, after⟩
    · exact ⟨late, hlate, by rw [htimes, List.append_nil]⟩
    · obtain ⟨x, hx, -, -, hs⟩ := (h.next before.length s).mp (by simp)
      have htime : (xs.map (·.time))[before.length]? = some s := by simp [htimes]
      simp only [List.getElem?_map, hx, Option.map_some, Option.some.injEq] at htime
      simp only [Exchange.arrival] at hs
      omega

theorem keepsDeadline (h : AskingRun what b q judge w run xs starts) (hp : 0 < b.pause)
    (hjudge : ∀ r what timeout n m, judge r ≠ .error (.timeout what timeout n m)) :
    KeepsDeadline b q w run xs starts := by
  have hsent : ∀ x ∈ xs, x.time < w.clock + b.timeout.ticks := by
    intro x hx
    have htime : x.time ∈ starts.filter (· < w.clock + b.timeout.ticks) := h.times ▸ List.mem_map_of_mem hx
    simpa using (List.mem_filter.mp htime).2
  have hresult := h.result
  refine ⟨h.exchanges, h.attempts, h.requests, hsent, fun before x y after hxs => ?_, fun a ha => h.clock_le_of_ok ha,
    fun what' e he => ?_, fun what' timeout n m hm => ?_⟩
  · have hstart : starts[before.length + 1]? = some y.time := by
      rcases h.starts_cases hp with hstarts | ⟨late, -, hstarts⟩ <;> simp [hstarts, hxs]
    obtain ⟨x', hx', -, -, htime⟩ := (h.next before.length y.time).mp hstart
    obtain rfl : x = x' := by simpa [hxs] using hx'
    exact htime.ge
  · split at hresult
    · exact hresult.2
    · rw [he] at hresult
      cases hresult.1
  · split at hresult
    · rename_i r hfirst
      obtain ⟨x, -, hdecides⟩ := List.exists_of_findSome?_eq_some hfirst
      rw [← hresult.1, hm, Poll.decision_eq_error_iff] at hdecides
      exact absurd hdecides (hjudge _ _ _ _ _)
    · rw [hm] at hresult
      cases hresult.1
      refine ⟨rfl, Poll.toNat_counted, ?_⟩
      rcases h.starts_cases hp with hstarts | ⟨late, hlate, hstarts⟩
      · have hfirst : starts.length ≠ 0 := by
          have := h.first
          rintro hzero
          simp [List.length_eq_zero_iff.mp hzero] at this
        rw [hstarts] at hfirst ⊢
        obtain ⟨x, hx⟩ := Option.ne_none_iff_exists'.mp
          (mt List.getLast?_eq_none_iff.mp fun hnil => hfirst (by simp [hnil]) : xs.getLast? ≠ none)
        exact ⟨x.time, by simp [hx], by simp [hsent x (List.mem_of_getLast? hx)]⟩
      · exact ⟨late, by simp [hstarts], by simp [hstarts, Nat.not_lt.mpr hlate]⟩

end AskingRun

/-! ## Both polls -/

variable {K : Type} [Resource K]

theorem verdict_ne_timeout (label : String) (passes : K → Readiness Unit) (r : Reply) (what : String)
    (timeout : Duration) (n : UInt32) (m : String) : verdict label passes r ≠ .error (.timeout what timeout n m) := by
  unfold verdict
  split
  · split <;> simp
  · split <;> simp
  · simp

theorem goneVerdict_ne_timeout (label uid : String) (r : Reply) (what : String) (timeout : Duration) (n : UInt32)
    (m : String) : goneVerdict K label uid r ≠ .error (.timeout what timeout n m) := by
  unfold goneVerdict
  split
  · split <;> simp
  · split <;> simp
  · simp

theorem pollObject_keepsDeadline (c : Collection K) {name : String} {q : Request} (hq : c.getRequest name = .ok q)
    {b : Budget} (hb : 0 < b.interval.ticks) (passes : K → Readiness Unit) (w : World) :
    ∃ xs starts, KeepsDeadline b q w (pollObject c name b passes w) xs starts := by
  obtain ⟨xs, starts, h⟩ := poll_fetch_asking c hq (describe K name) hb (judge (describe K name) passes) w
  simp only [judge_read] at h
  exact ⟨xs, starts, h.keepsDeadline (Budget.pause_pos hb) (verdict_ne_timeout _ _)⟩

theorem confirmGone_asking (c : Collection K) {name : String} {q : Request} (hq : c.getRequest name = .ok q)
    (uid : String) {b : Budget} (hb : 0 < b.interval.ticks) (w : World) :
    ∃ xs starts, AskingRun (describe K name ++ " to be deleted") b q (goneVerdict K (describe K name) uid) w
      (confirmGone c name uid b w) xs starts := by
  obtain ⟨xs, starts, h⟩ := poll_fetch_asking c hq (describe K name ++ " to be deleted") hb
    (judgeGone (describe K name) uid) w
  simp only [judgeGone_read] at h
  exact ⟨xs, starts, h⟩

/-- Polls for an object keep their deadlines, and so do waits for a deleted one to be gone: by themselves, and as
what is left of a removal when the deletion was accepted, with all their time before them when its answer has come. -/
theorem polls_keep_deadlines (c : Collection K) (name : String) {q : Request} (hq : c.getRequest name = .ok q)
    (b : Budget) (hb : 0 < b.interval.ticks) (w : World) :
    (∀ passes : K → Readiness Unit, ∃ xs starts, KeepsDeadline b q w (pollObject c name b passes w) xs starts) ∧
    (∀ uid, ∃ xs starts, KeepsDeadline b q w (confirmGone c name uid b w) xs starts) ∧
    ∀ (find : Budget) (obj : K) (uid : String),
      (waitForObject c name find w).1 = .ok obj → (Resource.metadata obj).uid = some uid →
      (Session.delete c name (waitForObject c name find w).2).1 = .ok (.ok ()) →
      ∃ xs starts, KeepsDeadline b q (Session.delete c name (waitForObject c name find w).2).2
        (deleteAndConfirm c name find b w) xs starts := by
  have hp : 0 < b.pause := Budget.pause_pos hb
  refine ⟨fun passes => pollObject_keepsDeadline c hq hb passes w, fun uid => ?_,
    fun find obj uid hfound huid haccepted => ?_⟩
  · obtain ⟨xs, starts, h⟩ := confirmGone_asking c hq uid hb w
    exact ⟨xs, starts, h.keepsDeadline hp (goneVerdict_ne_timeout _ _)⟩
  · obtain ⟨w', hw', hresult, hend⟩ := deleteAndConfirm_of_accepted c name find b w hfound huid haccepted
    obtain ⟨xs, starts, h⟩ := confirmGone_asking c hq uid hb w'
    exact ⟨xs, starts, (h.of_unlogged hw'.symm hresult hend).keepsDeadline hp (goneVerdict_ne_timeout _ _)⟩

/-- The server is down and slow. Two attempts ask it in vain, the third begins after the timeout and asks nothing. -/
theorem polls_keep_deadlines_with_late_attempt :
    let _types : ApiTypes := .any
    let c : Collection ConfigMap := .within "ns"
    let q : Request := { method := .get, path := "/api/v1/namespaces/ns/configmaps/cm" }
    let b := Budget.ofSecs 1 2
    let w := World.fresh [⟨.get, q.path, [⟨.answer 503 [], 400⟩]⟩]
    let run := pollObject c "cm" b (fun _ => .ready ()) w
    c.getRequest "cm" = .ok q ∧ 0 < b.interval.ticks ∧ run.2.attempts = [0, 1400, 2800] ∧
      run.2.exchanges.map (·.time) = [0, 1400] ∧ ∃ xs starts, KeepsDeadline b q w run xs starts := by
  intro _types c q b w run
  have hq : c.getRequest "cm" = .ok q := getRequest_map
  have hb : 0 < b.interval.ticks := by decide
  exact ⟨hq, hb, by decide +kernel, by decide +kernel, (polls_keep_deadlines c "cm" hq b hb w).1 fun _ => .ready ()⟩

/-- The interval is longer than the longest wait: the second request reaches the server before it is over. -/
theorem request_before_interval_is_over :
    letI : ApiTypes := .any
    let b : Budget := ⟨.ofSecs 946080001, .ofSecs 946080001⟩
    let run := waitForObject (.within "ns" : Collection ConfigMap) "cm" b
      (.fresh [⟨.get, "/api/v1/namespaces/ns/configmaps/cm", [⟨.failure "down", 0⟩]⟩])
    run.2.exchanges.map (fun x => (x.time, x.arrival)) = [(0, 0), (946080000000, 946080000000)] ∧
      946080000000 < 0 + b.interval.ticks := by
  decide +kernel

end ClusterProbe
