/-
  ClusterProbe.Proofs.Awaiting — waiting for an object is decided by one reply.

  Every reply to the poll's request has a verdict (`verdict`): it decides the poll, with
  the object it describes or as a refusal of code 400 or 422, or it only prolongs it and
  says why. The code is the refusal's own, which an answer of any failure status may give.

  - `pollObject_decided_by_first`: the replies come in the server's order, one for each
    attempt with time left, and the first in time that decides is the result, whatever
    the others are.
-/

import ClusterProbe.Proofs.Asking
import ClusterProbe.Proofs.Requests
import ClusterProbe.Session.Lifecycle

namespace ClusterProbe

variable {K : Type} [Resource K]

/-- A poll that fetches an object by a name that can be asked for. -/
theorem poll_fetch_asking {α : Type} (c : Collection K) {name : String} {q : Request} (hq : c.getRequest name = .ok q)
    (what : String) {b : Budget} (hb : 0 < b.interval.ticks)
    (f : Except RequestError K → Except ProbeError (Readiness α)) (w : World) :
    ∃ xs starts, AskingRun what b q (fun r => f (r.read Resource.ofJson?)) w
      (Session.poll what b (fun _ => (c.fetch name).map f) w) xs starts := by
  simp only [Session.poll, Collection.fetch_map_of_sendable hq]
  exact asking_poll what hb q _ w.unread w

/-- What a reply means for a poll that waits for an object that passes. -/
def verdict (label : String) (passes : K → Readiness Unit) (r : Reply) : Except ProbeError (Readiness K) :=
  match r.read Resource.ofJson? with
  | .ok obj =>
    match passes obj with
    | .ready () => .ok (.ready obj)
    | .pending m => .ok (.pending m)
  | .error (.refused f) =>
    if f.code = 400 ∨ f.code = 422 then .error (.fetch label (.refused f))
    else .ok (.pending ("failed to get " ++ label ++ ": " ++ (RequestError.refused f).message))
  | .error e => .ok (.pending ("failed to get " ++ label ++ ": " ++ e.message))

theorem judge_read (label : String) (passes : K → Readiness Unit) (r : Reply) :
    judge label passes (r.read Resource.ofJson?) = verdict label passes r := by
  unfold verdict judge
  rcases r.read (Resource.ofJson? (K := K)) with e | obj
  · cases e <;> simp [RequestError.isMalformed, RequestError.code?]
  · cases h : passes obj <;> simp [h, Readiness.map]

/-- A poll for an object is decided by the first reply in time that decides; no request
follows it. -/
theorem pollObject_decided_by_first (c : Collection K) (name : String) {q : Request} (hq : c.getRequest name = .ok q)
    (b : Budget) (hb : 0 < b.interval.ticks) (passes : K → Readiness Unit) (w : World) :
    let label := (Resource.kind K).name ++ " " ++ name
    ∃ xs starts, AskingRun label b q (verdict label passes) w (pollObject c name b passes w) xs starts := by
  intro label
  obtain ⟨xs, starts, h⟩ := poll_fetch_asking c hq label hb (judge label passes) w
  simp only [judge_read] at h
  exact ⟨xs, starts, h⟩

/-- A server that is down for one request, slowly, and then has the object. -/
theorem pollObject_decided_by_first_after_outage :
    let _types : ApiTypes := .any
    let c : Collection ConfigMap := .within "ns"
    let q : Request := { method := .get, path := "/api/v1/namespaces/ns/configmaps/cm" }
    let passes : ConfigMap → Readiness Unit := fun _ => .ready ()
    let w := World.fresh [⟨.get, q.path, [⟨.answer 503 [], 400⟩, ⟨.answer 200 (Text.utf8 "\x7b\x7d"), 0⟩]⟩]
    c.getRequest "cm" = .ok q ∧ 0 < (Budget.ofSecs 1 5).interval.ticks ∧
      ∃ xs starts, AskingRun "ConfigMap cm" (.ofSecs 1 5) q (verdict "ConfigMap cm" passes) w
        (pollObject c "cm" (.ofSecs 1 5) passes w) xs starts := by
  intro _types c q passes w
  have hq : c.getRequest "cm" = .ok q := getRequest_map
  exact ⟨hq, by decide, pollObject_decided_by_first c "cm" hq (.ofSecs 1 5) (by decide) passes w⟩

end ClusterProbe
