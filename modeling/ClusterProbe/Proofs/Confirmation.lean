/-
  ClusterProbe.Proofs.Confirmation — seeing that a deleted object is gone.

  Once an object was found with its uid and its deletion was accepted, what is left is
  one more poll (`deleteAndConfirm_of_accepted`). It judges replies by a rule of its own
  (`goneVerdict`): a refusal for the reason `NotFound` and an object of another uid end
  it, and nothing else does, not even a refusal that says the request is wrong.

  - `deleteAndConfirm_confirms`: the first reply in time that shows the object gone is
    the end; without one the confirmation times out. Its time counts from the arrival of
    the deletion's answer.
  - `not_gone_by_code_alone`: a refusal of code 404 for another reason shows nothing.
-/

import ClusterProbe.Proofs.Awaiting
import ClusterProbe.Proofs.Removal

namespace ClusterProbe

variable {K : Type} [Resource K]

/-- What a reply means for a poll that waits for the object of this uid to be gone. -/
def goneVerdict (K : Type) [Resource K] (label uid : String) (r : Reply) : Except ProbeError (Readiness Unit) :=
  match r.read (Resource.ofJson? (K := K)) with
  | .ok obj =>
    if (Resource.metadata obj).uid = some uid then .ok (.pending (label ++ " still exists")) else .ok (.ready ())
  | .error (.refused f) =>
    if f.reason = "NotFound" then .ok (.ready ())
    else .ok (.pending ("failed to get " ++ label ++ ": " ++ (RequestError.refused f).message))
  | .error e => .ok (.pending ("failed to get " ++ label ++ ": " ++ e.message))

theorem judgeGone_read (label uid : String) (r : Reply) :
    judgeGone label uid (r.read (Resource.ofJson? (K := K))) = goneVerdict K label uid r := by
  unfold goneVerdict judgeGone isGone
  rcases r.read (Resource.ofJson? (K := K)) with e | obj
  · cases e <;> simp [RequestError.isAbsent]
  · by_cases huid : (Resource.metadata obj).uid = some uid <;> simp [huid]

/-- The verdict ends the poll, and then well, on what shows the object gone. -/
theorem decision_goneVerdict {label uid : String} {r : Reply} {x : Except ProbeError Unit} :
    Poll.decision (goneVerdict K label uid r) = some x ↔ x = .ok () ∧ ShowsGone K uid r := by
  rw [← isGone_iff, ← judgeGone_read]
  unfold judgeGone
  cases isGone uid (r.read (Resource.ofJson? (K := K)))
  · cases r.read (Resource.ofJson? (K := K)) <;> simp [Poll.decision]
  · simp [Poll.decision, eq_comm]

/-- A poll that only such verdicts end: well, if a reply in time shows the object gone, and
in a timeout if not. -/
theorem AskingRun.gone_cases {what label uid : String} {b : Budget} {q : Request} {w : World}
    {run : Except ProbeError Unit × World} {xs : List Exchange} {starts : List Nat}
    (h : AskingRun what b q (goneVerdict K label uid) w run xs starts) :
    (run.1 = .ok () ∧ ∃ x ∈ xs, x.arrival ≤ w.clock + b.timeout.ticks ∧ ShowsGone K uid x.reply) ∨
    ((∃ m, run.1 = .error (.timeout what b.timeout (Poll.counted starts.length) m)) ∧
      ∀ x ∈ xs, x.arrival ≤ w.clock + b.timeout.ticks → ¬ShowsGone K uid x.reply) := by
  have hresult := h.result
  split at hresult
  · rename_i r hfirst
    obtain ⟨x, hx, hdecides⟩ := List.exists_of_findSome?_eq_some hfirst
    obtain ⟨rfl, hgone⟩ := decision_goneVerdict.mp hdecides
    rw [List.mem_filter, decide_eq_true_eq] at hx
    exact .inl ⟨hresult.1, x, hx.1, hx.2, hgone⟩
  · rename_i hnone
    refine .inr ⟨⟨_, hresult.1⟩, fun x hx htime hgone => ?_⟩
    have := List.findSome?_eq_none_iff.mp hnone x (List.mem_filter.mpr ⟨hx, by simpa using htime⟩)
    rw [decision_goneVerdict.mpr ⟨rfl, hgone⟩] at this
    cases this

/-- What is left after an accepted deletion, apart from what is logged. -/
theorem deleteAndConfirm_of_accepted (c : Collection K) (name : String) (find confirm : Budget) (w : World) {obj : K}
    {uid : String} (hfound : (waitForObject c name find w).1 = .ok obj) (huid : (Resource.metadata obj).uid = some uid)
    (haccepted : (Session.delete c name (waitForObject c name find w).2).1 = .ok (.ok ())) :
    let deleted := (Session.delete c name (waitForObject c name find w).2).2
    let run := deleteAndConfirm c name find confirm w
    ∃ w', w'.unlogged = deleted.unlogged ∧ run.1 = (confirmGone c name uid confirm w').1 ∧
      run.2.unlogged = (confirmGone c name uid confirm w').2.unlogged := by
  intro deleted run
  refine ⟨deleted.log .debug ("Delete request for " ++ describe K name ++ " accepted"), by simp, ?_⟩
  rcases hwait : waitForObject c name find w with ⟨r, w₁⟩
  rcases hdelete : Session.delete c name w₁ with ⟨r', w₂⟩
  simp only [hwait] at hfound haccepted
  simp only [hdelete] at haccepted
  subst hfound haccepted
  rcases hwatch : confirmGone c name uid confirm
    (w₂.log .debug ("Delete request for " ++ describe K name ++ " accepted")) with ⟨e | ⟨⟩, w₃⟩ <;>
  simp [run, deleted, deleteAndConfirm_eq, deleteFound, Session.run_bind, hwait, hdelete, huid, hwatch]

/-- An accepted deletion was sent and answered. -/
theorem accepted_deletion (c : Collection K) (name : String) (w : World)
    (haccepted : (Session.delete c name w).1 = .ok (.ok ())) :
    ∃ d, c.deleteRequest name = .ok d.request ∧ d.time = w.clock ∧
      (Session.delete c name w).2.exchanges = w.exchanges ++ [d] ∧ (Session.delete c name w).2.clock = d.arrival := by
  unfold Session.delete at haccepted ⊢
  rcases hq : c.deleteRequest name with e | q
  · simp [hq, Session.send_error] at haccepted
  · exact ⟨w.asked q, rfl, rfl, World.exchanges_ask w q, rfl⟩

/-- How a removal goes on that ran from `found` on, once the object was found with its uid and its deletion `d`
was accepted: it sends `q` again and again, which are the exchanges `xs`. -/
structure Confirmation (c : Collection K) (name uid : String) (confirm : Budget) (found : World)
    (run : Except ProbeError Unit × World) (q : Request) (d : Exchange) (xs : List Exchange) (starts : List Nat) :
    Prop where
  getRequest : c.getRequest name = .ok q
  deleteRequest : c.deleteRequest name = .ok d.request
  deletion : (Session.delete c name found).2.exchanges = found.exchanges ++ [d]
  /-- The time of the confirmation counts from the arrival of the deletion's answer. -/
  begins : (Session.delete c name found).2.clock = d.arrival
  poll : AskingRun ((Resource.kind K).name ++ " " ++ name ++ " to be deleted") confirm q
    (goneVerdict K ((Resource.kind K).name ++ " " ++ name) uid) (Session.delete c name found).2 run xs starts
  outcome :
    (run.1 = .ok () ∧ ∃ x ∈ xs, x.arrival ≤ d.arrival + confirm.timeout.ticks ∧ ShowsGone K uid x.reply) ∨
    ((∃ m, run.1 = .error (.timeout ((Resource.kind K).name ++ " " ++ name ++ " to be deleted") confirm.timeout
        (Poll.counted starts.length) m)) ∧
      ∀ x ∈ xs, x.arrival ≤ d.arrival + confirm.timeout.ticks → ¬ShowsGone K uid x.reply)

/-- After an accepted deletion the first reply in time that shows the object gone is the end; without one the
confirmation times out, and nothing else can happen. A removal that succeeds has kept to both budgets. -/
theorem deleteAndConfirm_confirms (c : Collection K) (name : String) (find confirm : Budget)
    (hfind : 0 < find.interval.ticks) (hconfirm : 0 < confirm.interval.ticks) (w : World) {obj : K} {uid : String}
    (hfound : (waitForObject c name find w).1 = .ok obj) (huid : (Resource.metadata obj).uid = some uid)
    (haccepted : (Session.delete c name (waitForObject c name find w).2).1 = .ok (.ok ())) :
    let run := deleteAndConfirm c name find confirm w
    ∃ q d xs starts, Confirmation c name uid confirm (waitForObject c name find w).2 run q d xs starts ∧
      (run.1 = .ok () → run.2.clock ≤
        w.clock + find.timeout.ticks + min d.response.delay World.longestWait + confirm.timeout.ticks) := by
  intro run
  obtain ⟨finds, -, hgets, hlast⟩ := waitForObject_cases c name find w
  rw [hfound] at hlast
  obtain ⟨f, -, hf, -⟩ := hlast
  have hq : c.getRequest name = .ok f.request := hgets f (List.mem_of_getLast? hf)
  obtain ⟨d, hd, htime, hexchanges, hclock⟩ := accepted_deletion c name (waitForObject c name find w).2 haccepted
  obtain ⟨_, _, hsearch⟩ := poll_fetch_asking c hq (describe K name) hfind
    (judge (describe K name) fun _ => .ready ()) w
  have hfoundInTime : (waitForObject c name find w).2.clock ≤ w.clock + find.timeout.ticks :=
    hsearch.clock_le_of_ok hfound
  obtain ⟨w', hw', hresult, hend⟩ := deleteAndConfirm_of_accepted c name find confirm w hfound huid haccepted
  obtain ⟨xs, starts, hwatch⟩ := poll_fetch_asking c hq (describe K name ++ " to be deleted") hconfirm
    (judgeGone (describe K name) uid) w'
  simp only [judgeGone_read] at hwatch
  have hrun : AskingRun _ _ _ _ _ run _ _ := hwatch.of_unlogged hw'.symm hresult hend
  refine ⟨f.request, d, xs, starts, ⟨hq, hd, hexchanges, hclock, hrun, hclock ▸ hrun.gone_cases⟩, fun hok => ?_⟩
  have hdone := hrun.clock_le_of_ok hok
  rw [hclock, Exchange.arrival, htime] at hdone
  omega

/-- A server that holds the first question after the deletion to be wrong, and then has an object of another uid. -/
theorem deleteAndConfirm_confirms_recreated :
    let _types : ApiTypes := .any
    let c : Collection ConfigMap := .within "ns"
    let b := Budget.ofSecs 1 5
    let w := World.fresh (deletingServer
      [⟨.answer 422 [], 300⟩, ⟨.answer 200 (Text.utf8 "\x7b\"metadata\":\x7b\"uid\":\"v\"\x7d\x7d"), 0⟩])
    let found := (waitForObject c "cm" b w).2
    let run := deleteAndConfirm c "cm" b b w
    ∃ obj uid, (waitForObject c "cm" b w).1 = .ok obj ∧ (Resource.metadata obj).uid = some uid ∧
      (Session.delete c "cm" found).1 = .ok (.ok ()) ∧ 0 < b.interval.ticks ∧
      ∃ q d xs starts, Confirmation c "cm" uid b found run q d xs starts ∧
        (run.1 = .ok () → run.2.clock ≤
          w.clock + b.timeout.ticks + min d.response.delay World.longestWait + b.timeout.ticks) := by
  intro _types c b w
  have hfound : (waitForObject c "cm" b w).1 = .ok ⟨{ uid := some "u" }, none⟩ := by decide +kernel
  have haccepted : (Session.delete c "cm" (waitForObject c "cm" b w).2).1 = .ok (.ok ()) := by decide +kernel
  have hb : 0 < b.interval.ticks := by decide
  clear_value w
  exact ⟨_, "u", hfound, rfl, haccepted, hb, deleteAndConfirm_confirms c "cm" b b hb hb w hfound rfl haccepted⟩

/-- The server answers with a page of its own and code 404, again and again. That shows nothing. -/
theorem not_gone_by_code_alone :
    letI : ApiTypes := .any
    let run := deleteAndConfirm (.within "ns" : Collection ConfigMap) "cm" (.ofSecs 1 5) (.ofSecs 1 5)
      (.fresh (deletingServer [⟨.answer 404 (Text.utf8 "gone"), 0⟩]))
    run.2.exchanges.map (·.request.method) = [.get, .delete, .get, .get, .get, .get, .get] ∧
    ((run.2.exchanges.drop 2).all fun x => x.reply.text ==
      .error (.refused ⟨"404 Not Found", "\"gone\"", "Failed to parse error data", 404⟩)) = true ∧
    run.1 ≠ .ok () := by
  decide +kernel

end ClusterProbe
