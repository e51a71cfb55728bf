/-
  ClusterProbe.Proofs.Ending — how a run may end, seen by its exchanges.

  Of a poll under any budget, one without pauses included, less is known than of one
  that keeps a timetable, but enough to be safe: every request it sends is the one it
  polls with, and it ends as its last reply is judged, or in a timeout (`Asked`).

  - `loop_asked`, `pollUntilReady_asked`: this holds of every poll whose attempts send
    one request and judge the reply.
  - `loop_settled`: a poll whose attempts all find the same at once sends nothing.
  - `waitForObject_ends`: a search for an object ends with the one in the last reply, with
    a refusal that holds the request to be wrong, or in a timeout.

  Runs follow one another until one of them fails (`run_bind`).
-/

import ClusterProbe.Proofs.Requests
import ClusterProbe.Proofs.Traffic
import ClusterProbe.Session.Lifecycle

namespace ClusterProbe

/-! ## One run after another -/

namespace Session

variable {α β : Type}

theorem run_bind (x : Session α) (f : α → Session β) (w : World) :
    (x >>= f) w = match x w with
      | (.ok a, w) => f a w
      | (.error e, w) => (.error e, w) := by
  simp only [bind, ExceptT.bind, ExceptT.mk, StateT.bind, ExceptT.bindCont]
  rcases x w with ⟨e | a, w⟩ <;> rfl

@[simp] theorem run_pure (a : α) (w : World) : (pure a : Session α) w = (.ok a, w) := rfl
@[simp] theorem run_throw (e : ProbeError) (w : World) : (throw e : Session α) w = (.error e, w) := rfl
@[simp] theorem run_info (text : String) (w : World) : info text w = (.ok (), w.log .info text) := rfl
@[simp] theorem run_debug (text : String) (w : World) : debug text w = (.ok (), w.log .debug text) := rfl

theorem send_error (e : RequestError) (read : Reply → Except RequestError α) (w : World) :
    send (.error e) read w = (.ok (.error e), w) := rfl

theorem send_ok (q : Request) (read : Reply → Except RequestError α) (w : World) :
    send (.ok q) read w = (.ok (read (w.asked q).reply), w.ask q) := rfl

end Session

/-! ## Polls under any budget -/

namespace Poll

variable {α : Type}

/-- How a poll may end that has seen these exchanges. -/
inductive Asked (what : String) (b : Budget) (judge : Reply → Except ProbeError (Readiness α))
    (xs : List Exchange) : Except ProbeError α → Prop
  | ready {x : Exchange} {a : α} : xs.getLast? = some x → judge x.reply = .ok (.ready a) → Asked what b judge xs (.ok a)
  | failed {x : Exchange} {e : ProbeError} :
      xs.getLast? = some x → judge x.reply = .error e → Asked what b judge xs (.error e)
  | timeout (n : UInt32) (m : String) : Asked what b judge xs (.error (.timeout what b.timeout n m))

variable (what : String) (b : Budget) (judge : Reply → Except ProbeError (Readiness α))

/-- Only the end of what was seen counts. -/
theorem Asked.prepend {what : String} {b : Budget} {judge : Reply → Except ProbeError (Readiness α)}
    {xs : List Exchange} {r : Except ProbeError α} (h : Asked what b judge xs r) (before : List Exchange) :
    Asked what b judge (before ++ xs) r := by
  cases h with
  | ready hx hj => exact .ready (by simp [hx]) hj
  | failed hx hj => exact .failed (by simp [hx]) hj
  | timeout n m => exact .timeout n m

/-- One attempt: cut off, having asked or not, or a judgement on the reply. -/
theorem look_asking (q : Request) (start n : Nat) (w : World) :
    let r := look what b (fun _ => .request q fun r => .done (judge r)) start n w
    ∃ xs, r.2.exchanges = w.exchanges ++ xs ∧ (∀ x ∈ xs, x.request = q) ∧
      (r.1 = none ∨ ∃ x, xs = [x] ∧ r.1 = some (judge x.reply)) := by
  have hbegun := w.exchanges_attempt w.clock what
  generalize hv : w.record (.attempt w.clock what) = v at hbegun
  simp only [look, Attempt.run, hv]
  split
  · exact ⟨[], by simp [hbegun]⟩
  · refine ⟨[⟨v.clock, q, (v.exchange q).1⟩], ?_⟩
    unfold Attempt.inTime
    split
    · simp [World.exchanges_exchange, Exchange.reply, hbegun]
    · simp [World.exchanges_exchange, hbegun]

/-- A poll that sends `q` in each attempt sends nothing else, and ends as its last reply
is judged or in a timeout. -/
theorem loop_asked (q : Request) (start rounds n : Nat) (last : String) (w : World) :
    let run := loop what b (fun _ => .request q fun r => .done (judge r)) start rounds n last w
    ∃ xs, run.2.exchanges = w.exchanges ++ xs ∧ (∀ x ∈ xs, x.request = q) ∧ Asked what b judge xs run.1 := by
  induction rounds generalizing n last w with
  | zero => exact ⟨[], by simp [loop], by simp, .timeout _ _⟩
  | succ rounds ih =>
    obtain ⟨xs, hxs, hq, hr⟩ := look_asking what b judge q start n w
    rcases hlook : look what b (fun _ => .request q fun r => .done (judge r)) start n w with ⟨found, w'⟩
    simp only [hlook] at hxs hr
    rcases hr with rfl | ⟨x, rfl, rfl⟩
    · rw [loop_of_cut hlook]
      exact ⟨xs, by simp [hxs], hq, .timeout _ _⟩
    · rcases hj : judge x.reply with e | a | m <;> rw [hj] at hlook
      · rw [loop_of_raised hlook]
        exact ⟨[x], hxs, hq, .failed rfl hj⟩
      · rw [loop_of_ready hlook]
        exact ⟨[x], by simp [hxs], hq, .ready rfl hj⟩
      · rcases Nat.lt_or_ge w'.clock (start + b.timeout.ticks) with hleft | hlate
        · obtain ⟨ys, hys, hqs, hasked⟩ := ih (n + 1) m
            ((w'.log .debug ("Waiting for " ++ what ++ ": " ++ m ++ ", retrying...")).advance b.interval.ticks)
          rw [loop_of_pending hlook hleft]
          refine ⟨[x] ++ ys, ?_, List.forall_mem_append.mpr ⟨hq, hqs⟩, hasked.prepend [x]⟩
          simpa [hxs] using hys
        · rw [loop_of_late hlook hlate]
          exact ⟨[x], by simp [hxs], hq, .timeout _ _⟩

/-- Attempts that all find the same at once. -/
theorem loop_settled (m : String) (start rounds n : Nat) (last : String) (w : World) :
    let run := loop what b (fun _ => .done (.ok (.pending m) : Except ProbeError (Readiness α))) start rounds n last w
    run.2.exchanges = w.exchanges ∧ ∃ n m, run.1 = .error (.timeout what b.timeout n m) := by
  induction rounds generalizing n last w with
  | zero => exact ⟨rfl, _, _, rfl⟩
  | succ rounds ih =>
    simp only [loop, look, Attempt.run]
    split
    · exact ⟨by simp, _, _, rfl⟩
    · simpa using ih (n + 1) m (((w.record (.attempt w.clock what)).log .debug
        ("Waiting for " ++ what ++ ": " ++ m ++ ", retrying...")).advance b.interval.ticks)

end Poll

/-! ## Polling for an object -/

variable {K : Type} [Resource K]

/-- A poll that fetches an object and goes on as long as the request cannot be sent. -/
theorem poll_fetch_asked {α : Type} (c : Collection K) (name what : String) (b : Budget)
    (f : Except RequestError K → Except ProbeError (Readiness α))
    (hf : ∀ why, ∃ m, f (.error (.unsendable why)) = .ok (.pending m)) (w : World) :
    let run := Session.poll what b (fun _ => (c.fetch name).map f) w
    ∃ xs, run.2.exchanges = w.exchanges ++ xs ∧ (∀ x ∈ xs, c.getRequest name = .ok x.request) ∧
      Poll.Asked what b (fun r => f (r.read Resource.ofJson?)) xs run.1 := by
  rcases hq : c.getRequest name with e | q
  · obtain ⟨why, rfl⟩ := Collection.getRequest_error hq
    obtain ⟨m, hm⟩ := hf why
    simp only [Session.poll, pollUntilReady, Collection.fetch_map_of_unsendable hq, hm]
    obtain ⟨hxs, n, m, hr⟩ := Poll.loop_settled (α := α) what b m w.clock (b.rounds + w.unread) 1
      Poll.notLooked w
    exact ⟨[], by simpa using hxs, by simp, hr ▸ .timeout n m⟩
  · simp only [Session.poll, pollUntilReady, Collection.fetch_map_of_sendable hq]
    obtain ⟨xs, hxs, hqs, hasked⟩ := Poll.loop_asked what b
      (fun r => f (r.read Resource.ofJson?)) q w.clock (b.rounds + w.unread) 1 Poll.notLooked w
    exact ⟨xs, hxs, fun x hx => by rw [hqs x hx], hasked⟩

/-- A search ends well only with the object of the last reply. -/
theorem waitForObject_ends (c : Collection K) (name : String) (b : Budget) (w : World) :
    let run := waitForObject c name b w
    ∃ xs, run.2.exchanges = w.exchanges ++ xs ∧ (∀ x ∈ xs, c.getRequest name = .ok x.request) ∧
      match run.1 with
      | .ok obj => ∃ x, xs.getLast? = some x ∧ x.reply.read Resource.ofJson? = .ok obj
      | .error e => (∃ n m, e = .timeout (describe K name) b.timeout n m) ∨
          ∃ x f, xs.getLast? = some x ∧ x.reply.read (Resource.ofJson? (K := K)) = .error (.refused f) ∧
            (f.code = 400 ∨ f.code = 422) ∧ e = .fetch (describe K name) (.refused f) := by
  intro run
  obtain ⟨xs, hxs, hqs, hasked⟩ := poll_fetch_asked c name (describe K name) b
    (judge (describe K name) fun _ => .ready ()) (fun why => ⟨_, rfl⟩) w
  refine ⟨xs, hxs, hqs, ?_⟩
  change Poll.Asked _ _ _ xs run.1 at hasked
  rcases hrun : run.1 with e | obj <;> rw [hrun] at hasked <;> dsimp only
  · cases hasked with
    | failed hx hj =>
      rename_i x
      right
      rcases hread : x.reply.read (Resource.ofJson? (K := K)) with e' | obj
      · cases e' <;> simp [hread, judge, RequestError.isMalformed, RequestError.code?, ite_eq_iff] at hj
        exact ⟨_, _, hx, hread, hj.1, hj.2.symm⟩
      · simp [hread, judge] at hj
    | timeout n m => exact .inl ⟨n, m, rfl⟩
  · cases hasked with
    | ready hx hj =>
      rename_i x
      rcases hread : x.reply.read (Resource.ofJson? (K := K)) with e | obj'
      · simp only [hread, judge] at hj
        split at hj <;> cases hj
      · simp only [hread, judge, Readiness.map, Except.ok.injEq, Readiness.ready.injEq] at hj
        exact ⟨x, hx, by rw [hread, hj]⟩

end ClusterProbe
