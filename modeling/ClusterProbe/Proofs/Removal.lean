/-
  ClusterProbe.Proofs.Removal — finding an object, deleting it once, and seeing it gone.

  Whatever the server has to say and however long it takes, `deleteAndConfirm` goes in
  one of the ways of `Removal`: some requests to find the object, at most one to delete
  it, and some to see it gone, all of one path. Nothing is deleted that was not found
  with its uid just before. The removal is reported as done only if the deletion was
  refused with code 404, or was accepted and the last reply was a refusal for the reason
  `NotFound`, or an object of another uid.

  - `deleteAndConfirm_removal`: every run is a removal, whatever the budgets.
  - `gone_by_reason_with_another_code`: the last refusal need not be of code 404; its
    reason counts, as for everyone who looks whether an object is there.
-/

import Mathlib.Control.Monad.Basic
import ClusterProbe.Proofs.Ending
import ClusterProbe.Resource.Cluster

namespace ClusterProbe

variable {K : Type} [Resource K]

/-! ## The ways of a removal -/

/-- The last of these replies has an object of this uid, or of none. -/
def Found (K : Type) [Resource K] (finds : List Exchange) (uid : Option String) : Prop :=
  ∃ x obj, finds.getLast? = some x ∧ x.reply.read (Resource.ofJson? (K := K)) = .ok obj ∧
    (Resource.metadata obj).uid = uid

/-- The reply shows that there is no object of this uid under the name. -/
def ShowsGone (K : Type) [Resource K] (uid : String) (r : Reply) : Prop :=
  (∃ f, r.read (Resource.ofJson? (K := K)) = .error (.refused f) ∧ f.reason = "NotFound") ∨
    ∃ obj, r.read (Resource.ofJson? (K := K)) = .ok obj ∧ (Resource.metadata obj).uid ≠ some uid

/-- The ways of a removal: what is asked to find the object, to delete it and to see it
gone, and the result. -/
inductive Removal (c : Collection K) (name : String) (find confirm : Budget) :
    List Exchange → List Exchange → List Exchange → Except ProbeError Unit → Prop
  | notFound (finds : List Exchange) (n : UInt32) (m : String) :
      Removal c name find confirm finds [] [] (.error (.timeout (describe K name) find.timeout n m))
  | notFetched {finds : List Exchange} {x : Exchange} {f : Refusal} :
      finds.getLast? = some x → x.reply.read (Resource.ofJson? (K := K)) = .error (.refused f) →
      f.code = 400 ∨ f.code = 422 →
      Removal c name find confirm finds [] [] (.error (.fetch (describe K name) (.refused f)))
  | noUid {finds : List Exchange} : Found K finds none →
      Removal c name find confirm finds [] [] (.error (.precondition (describe K name ++ " has no uid")))
  | unsent {finds : List Exchange} {uid : String} {e : RequestError} :
      Found K finds (some uid) → c.deleteRequest name = .error e →
      Removal c name find confirm finds [] [] (.error (.request e))
  | alreadyGone {finds : List Exchange} {uid : String} {d : Exchange} {f : Refusal} :
      Found K finds (some uid) →
      d.reply.read (DeleteAnswer.accepted? (Resource.ofJson? (K := K))) = .error (.refused f) → f.code = 404 →
      Removal c name find confirm finds [d] [] (.ok ())
  | refused {finds : List Exchange} {uid : String} {d : Exchange} {e : RequestError} :
      Found K finds (some uid) →
      d.reply.read (DeleteAnswer.accepted? (Resource.ofJson? (K := K))) = .error e → e.code? ≠ some 404 →
      Removal c name find confirm finds [d] [] (.error (.request e))
  | gone {finds : List Exchange} {uid : String} {d : Exchange} {confirms : List Exchange} {x : Exchange} :
      Found K finds (some uid) →
      d.reply.read (DeleteAnswer.accepted? (Resource.ofJson? (K := K))) = .ok () →
      confirms.getLast? = some x → ShowsGone K uid x.reply →
      Removal c name find confirm finds [d] confirms (.ok ())
  | notConfirmed {finds : List Exchange} {uid : String} {d : Exchange} (confirms : List Exchange) (n : UInt32)
      (m : String) :
      Found K finds (some uid) →
      d.reply.read (DeleteAnswer.accepted? (Resource.ofJson? (K := K))) = .ok () →
      Removal c name find confirm finds [d] confirms
        (.error (.timeout (describe K name ++ " to be deleted") confirm.timeout n m))

/-! ## Each phase -/

/-- A search ends well only with an object in the last reply. -/
theorem waitForObject_cases (c : Collection K) (name : String) (b : Budget) (w : World) :
    let run := waitForObject c name b w
    ∃ xs, run.2.exchanges = w.exchanges ++ xs ∧ (∀ x ∈ xs, c.getRequest name = .ok x.request) ∧
      match run.1 with
      | .ok obj => Found K xs (Resource.metadata obj).uid
      | .error e => (∃ n m, e = .timeout (describe K name) b.timeout n m) ∨
          ∃ x f, xs.getLast? = some x ∧ x.reply.read (Resource.ofJson? (K := K)) = .error (.refused f) ∧
            (f.code = 400 ∨ f.code = 422) ∧ e = .fetch (describe K name) (.refused f) := by
  intro run
  obtain ⟨xs, hxs, hqs, hends⟩ := waitForObject_ends c name b w
  refine ⟨xs, hxs, hqs, ?_⟩
  rcases hrun : run.1 with e | obj <;> simp only [run] at hrun <;> simp only [hrun] at hends
  · exact hends
  · obtain ⟨x, hx, hread⟩ := hends
    exact ⟨x, obj, hx, hread, rfl⟩

theorem isGone_iff {uid : String} {r : Reply} :
    isGone uid (r.read (Resource.ofJson? (K := K))) = true ↔ ShowsGone K uid r := by
  unfold isGone ShowsGone
  rcases r.read (Resource.ofJson? (K := K)) with e | obj
  · cases e <;> simp [RequestError.isAbsent]
  · simp

theorem confirmGone_cases (c : Collection K) (name uid : String) (b : Budget) (w : World) :
    let run := confirmGone c name uid b w
    ∃ xs, run.2.exchanges = w.exchanges ++ xs ∧ (∀ x ∈ xs, c.getRequest name = .ok x.request) ∧
      match run.1 with
      | .ok () => ∃ x, xs.getLast? = some x ∧ ShowsGone K uid x.reply
      | .error e => ∃ n m, e = .timeout (describe K name ++ " to be deleted") b.timeout n m := by
  intro run
  obtain ⟨xs, hxs, hqs, hasked⟩ := poll_fetch_asked c name (describe K name ++ " to be deleted") b
    (judgeGone (describe K name) uid) (fun why => ⟨_, rfl⟩) w
  refine ⟨xs, hxs, hqs, ?_⟩
  change Poll.Asked _ _ _ xs run.1 at hasked
  rcases hrun : run.1 with e | ⟨⟩ <;> rw [hrun] at hasked <;> dsimp only
  · cases hasked with
    | failed hx hj =>
      unfold judgeGone at hj
      split at hj
      · cases hj
      · split at hj <;> cases hj
    | timeout n m => exact ⟨n, m, rfl⟩
  · cases hasked with
    | ready hx hj =>
      unfold judgeGone at hj
      split at hj
      · exact ⟨_, hx, isGone_iff.mp (by assumption)⟩
      · split at hj <;> cases hj

theorem delete_cases (c : Collection K) (name : String) (w : World) :
    let run := Session.delete c name w
    (∃ e, c.deleteRequest name = .error e ∧ run.1 = .ok (.error e) ∧ run.2 = w) ∨
    ∃ d, c.deleteRequest name = .ok d.request ∧ run.2.exchanges = w.exchanges ++ [d] ∧
      run.1 = .ok (d.reply.read (DeleteAnswer.accepted? (Resource.ofJson? (K := K)))) := by
  unfold Session.delete
  rcases c.deleteRequest name with e | q
  · exact .inl ⟨e, rfl, rfl, rfl⟩
  · exact .inr ⟨w.asked q, rfl, World.exchanges_ask w q, rfl⟩

/-- The requests of a phase: those of a method, all for the one object. -/
def AllFor (c : Collection K) (name : String) (method : Method) (xs : List Exchange) : Prop :=
  ∀ x ∈ xs, x.request.method = method ∧ x.request.path = c.objectPath name

theorem allFor_of_get {c : Collection K} {name : String} {xs : List Exchange}
    (h : ∀ x ∈ xs, c.getRequest name = .ok x.request) : AllFor c name .get xs :=
  fun x hx => Collection.getRequest_ok (h x hx)

/-! ## Every run -/

/-- What follows once the object was found with its uid. -/
def deleteFound (c : Collection K) (name uid : String) (confirm : Budget) : Session Unit := do
  match ← Session.delete c name with
  | .error e =>
    if e.isNotFound then Session.info (describe K name ++ " was already gone")
    else throw (.request e)
  | .ok () =>
    Session.debug ("Delete request for " ++ describe K name ++ " accepted")
    confirmGone c name uid confirm
    Session.info ("Deleted " ++ describe K name)

theorem deleteAndConfirm_eq (c : Collection K) (name : String) (find confirm : Budget) :
    deleteAndConfirm c name find confirm = (do
      let existing ← waitForObject c name find
      match (Resource.metadata existing).uid with
      | none => throw (.precondition (describe K name ++ " has no uid"))
      | some uid => deleteFound c name uid confirm) := rfl

theorem isNotFound_iff {e : RequestError} : e.isNotFound = true ↔ ∃ f, e = .refused f ∧ f.code = 404 := by
  cases e <;> simp [RequestError.isNotFound, RequestError.code?]

theorem deleteFound_removal (c : Collection K) (name uid : String) (find confirm : Budget) (w : World)
    {finds : List Exchange} (hfound : Found K finds (some uid)) :
    let run := deleteFound c name uid confirm w
    ∃ deletions confirms, run.2.exchanges = w.exchanges ++ deletions ++ confirms ∧
      AllFor c name .delete deletions ∧ AllFor c name .get confirms ∧
      Removal c name find confirm finds deletions confirms run.1 := by
  intro run
  rcases hdelete : Session.delete c name w with ⟨r, w₁⟩
  have hcases := delete_cases c name w
  simp only [hdelete] at hcases
  simp only [run, deleteFound, Session.run_bind, hdelete]
  rcases hcases with ⟨e, he, rfl, rfl⟩ | ⟨d, hd, hds, rfl⟩
  · obtain ⟨why, rfl⟩ := Collection.deleteRequest_error he
    exact ⟨[], [], by simp [RequestError.isNotFound, RequestError.code?], by simp [AllFor], by simp [AllFor],
      .unsent hfound he⟩
  · have hdel : AllFor c name .delete [d] := by simpa [AllFor] using Collection.deleteRequest_ok hd
    rcases hread : d.reply.read (DeleteAnswer.accepted? (Resource.ofJson? (K := K))) with e | ⟨⟩
    · by_cases he : e.isNotFound
      · obtain ⟨f, rfl, hcode⟩ := isNotFound_iff.mp he
        exact ⟨[d], [], by simp [he, hds], hdel, by simp [AllFor], by simpa [he] using .alreadyGone hfound hread hcode⟩
      · have hcode : e.code? ≠ some 404 := by simpa [RequestError.isNotFound] using he
        exact ⟨[d], [], by simp [he, hds], hdel, by simp [AllFor], by simpa [he] using .refused hfound hread hcode⟩
    · obtain ⟨confirms, hconfirms, hgets, hgone⟩ := confirmGone_cases c name uid confirm
        (w₁.log .debug ("Delete request for " ++ describe K name ++ " accepted"))
      rcases hwatch : confirmGone c name uid confirm
        (w₁.log .debug ("Delete request for " ++ describe K name ++ " accepted")) with ⟨e | ⟨⟩, w₂⟩
      all_goals simp only [hwatch, World.exchanges_log, hds] at hconfirms hgone
      · obtain ⟨n, m, rfl⟩ := hgone
        exact ⟨[d], confirms, by simp [Session.run_bind, hwatch, hconfirms], hdel, allFor_of_get hgets,
          by simpa [Session.run_bind, hwatch] using .notConfirmed confirms n m hfound hread⟩
      · obtain ⟨x, hx, hshows⟩ := hgone
        exact ⟨[d], confirms, by simp [Session.run_bind, hwatch, hconfirms], hdel, allFor_of_get hgets,
          by simpa [Session.run_bind, hwatch] using .gone hfound hread hx hshows⟩

/-- Every run is a removal: requests to find the object, at most one to delete it and
some to see it gone, all of the one path. -/
theorem deleteAndConfirm_removal (c : Collection K) (name : String) (find confirm : Budget) (w : World) :
    let run := deleteAndConfirm c name find confirm w
    ∃ finds deletions confirms, run.2.exchanges = w.exchanges ++ finds ++ deletions ++ confirms ∧
      AllFor c name .get finds ∧ AllFor c name .delete deletions ∧ AllFor c name .get confirms ∧
      Removal c name find confirm finds deletions confirms run.1 := by
  intro run
  rcases hwait : waitForObject c name find w with ⟨r, w₁⟩
  obtain ⟨finds, hfinds, hgets, hfound⟩ := waitForObject_cases c name find w
  simp only [hwait] at hfinds hfound
  simp only [run, deleteAndConfirm_eq, Session.run_bind, hwait]
  rcases r with e | obj
  · refine ⟨finds, [], [], by simp [hfinds], allFor_of_get hgets, by simp [AllFor], by simp [AllFor], ?_⟩
    rcases hfound with ⟨n, m, rfl⟩ | ⟨x, f, hx, hread, hcode, rfl⟩
    · exact .notFound finds n m
    · exact .notFetched hx hread hcode
  · dsimp only at hfound ⊢
    rcases huid : (Resource.metadata obj).uid with _ | uid <;> rw [huid] at hfound
    · exact ⟨finds, [], [], by simp [hfinds], allFor_of_get hgets, by simp [AllFor], by simp [AllFor], .noUid hfound⟩
    · obtain ⟨deletions, confirms, hds, hdel, hget, hremoval⟩ := deleteFound_removal c name uid find confirm w₁ hfound
      exact ⟨finds, deletions, confirms, by rw [hds, hfinds], allFor_of_get hgets, hdel, hget, hremoval⟩

/-- A server that has the object with the uid `u`, deletes it when asked, and then gives these answers. -/
def deletingServer (afterwards : List Response) : List Route :=
  let path := "/api/v1/namespaces/ns/configmaps/cm"
  let stored : Response := ⟨.answer 200 (Text.utf8 "\x7b\"metadata\":\x7b\"uid\":\"u\"\x7d\x7d"), 0⟩
  [⟨.get, path, stored :: afterwards⟩, ⟨.delete, path, [stored]⟩]

/-- The server breaks down for the reason `NotFound`, and the removal succeeds although its last reply is a
refusal of code 500. -/
theorem gone_by_reason_with_another_code :
    letI : ApiTypes := .any
    let broken : Response :=
      ⟨.answer 500 (Text.utf8 "\x7b\"status\":\"Failure\",\"reason\":\"NotFound\",\"code\":500\x7d"), 0⟩
    let run := deleteAndConfirm (.within "ns" : Collection ConfigMap) "cm" (.ofSecs 1 5) (.ofSecs 1 5)
      (.fresh (deletingServer [broken]))
    run.1 = .ok () ∧ run.2.exchanges.map (·.request.method) = [.get, .delete, .get] ∧
      (run.2.exchanges.getLast?.map fun x => x.reply.text) =
        some (.error (.refused ⟨"Failure", "", "NotFound", 500⟩)) := by
  decide +kernel

end ClusterProbe
