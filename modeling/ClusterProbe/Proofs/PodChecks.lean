/-
  ClusterProbe.Proofs.PodChecks — the pods of a deployment are listed once, and one has to run.

  A deployment that asks for no labels is not followed up. Any other one has the pods of
  its own namespace listed, by the text of its selector, and that once: whatever comes
  back settles the matter (`PodCheck`). Only a list of a single pod whose phase is
  `Running` passes.

  - `checks_list_pods_once`: every check of a given deployment goes this way. A check
    that waits for its deployment first does so for the deployment in the last reply of
    the search, and lists nothing if there is none (`DeploymentCheck`).
  - `pods_behind_a_fragment`: the namespace stands in the address as it is. One that
    holds a sign which ends the path cuts off what comes after it, the selector included.
-/

import Mathlib.Control.Monad.Basic
import ClusterProbe.Check.Workload
import ClusterProbe.Proofs.Creation
import ClusterProbe.Proofs.QueryText
import ClusterProbe.Proofs.Selectors

namespace ClusterProbe

/-! ## Listing -/

namespace Collection

section Requests

variable {K : Type} [Resource K] {c : Collection K} {selector : String} {q : Request}

theorem listRequest_ok (h : c.listRequest selector = .ok q) :
    q.method = .get ∧ q.path = Http.Target.pathOf c.path ∧ q.body = none := by
  obtain ⟨t, ht, rfl⟩ := build_target h
  refine ⟨rfl, ?_, rfl⟩
  rw [Http.Target.path_of_parse ht, Http.Target.pathOf_append_query]

/-- The selector arrives as it was written, unless the path ends the address before. -/
theorem listRequest_query (h : c.listRequest selector = .ok q) (hmark : '?' ∉ c.path.toList)
    (hhash : '#' ∉ c.path.toList) : q.path = c.path ∧ q.query = [("labelSelector", selector)] := by
  obtain ⟨t, ht, rfl⟩ := build_target h
  have hquery : '#' ∉ (Http.Form.encode [("labelSelector", selector)]).toList :=
    Http.Form.not_mem_encode (by decide) (by decide) (by decide) _
  have htarget : t = ⟨c.path, some (Http.Form.encode [("labelSelector", selector)])⟩ :=
    Http.Target.parts_of_parse hmark hhash hquery ht
  subst htarget
  refine ⟨rfl, ?_⟩
  simp only [Option.map_some, Option.getD_some, Http.Form.decode_encode]

end Requests

theorem pods_path [ApiTypes] (ns : String) :
    (within ns : Collection Pod).path = "/api/v1/namespaces/" ++ ns ++ "/pods" := by
  have hshape : (within ns : Collection Pod).path = "/api/" ++ "v1" ++ ("/namespaces/" ++ ns) ++ "/" ++ "pods" := rfl
  rw [hshape, ← String.toList_inj]
  simp

end Collection

section Checks

variable [ApiTypes]

/-- The request for the pods of a namespace that a selector chooses. -/
structure ListsPods (ns selector : String) (x : Exchange) : Prop where
  request : (Collection.within ns : Collection Pod).listRequest selector = .ok x.request
  method : x.request.method = .get
  path : x.request.path = Http.Target.pathOf ("/api/v1/namespaces/" ++ ns ++ "/pods")
  body : x.request.body = none
  /-- No sign of the namespace ends the path. -/
  whole : '?' ∉ ns.toList → '#' ∉ ns.toList →
    x.request.path = "/api/v1/namespaces/" ++ ns ++ "/pods" ∧ x.request.query = [("labelSelector", selector)]

theorem listsPods_of_request {ns selector : String} {x : Exchange}
    (h : (Collection.within ns : Collection Pod).listRequest selector = .ok x.request) : ListsPods ns selector x := by
  obtain ⟨hmethod, hpath, hbody⟩ := Collection.listRequest_ok h
  refine ⟨h, hmethod, by rw [hpath, Collection.pods_path], hbody, ?_⟩
  intro hmark hhash
  rw [← Collection.pods_path]
  refine Collection.listRequest_query h ?_ ?_ <;> rw [Collection.pods_path]
  · simpa using hmark
  · simpa using hhash

/-! ## The ways of a check -/

/-- The reply is a list of these pods. -/
def Reply.HoldsPods (r : Reply) (pods : List Pod) : Prop := r.read (ListAnswer.items? Resource.ofJson?) = .ok pods

theorem Reply.HoldsPods.unique {r : Reply} {pods pods' : List Pod} (h : r.HoldsPods pods) (h' : r.HoldsPods pods') :
    pods = pods' := Except.ok.inj (h.symm.trans h')

/-- The ways of a check of a deployment's pods: what is asked, and the result. -/
inductive PodCheck (d : Deployment) : List Exchange → Except ProbeError Pod → Prop
  | unselective : d.matchLabels? = none ∨ d.matchLabels? = some .empty →
      PodCheck d [] (.error (.precondition ("deployment " ++ d.metadata.namespaceOrEmpty ++ "/" ++
        d.metadata.nameToShow ++ " has no matchLabels selector")))
  | unsent {selector : String} {e : RequestError} :
      d.selector? = some selector →
      (Collection.within d.metadata.namespaceOrEmpty : Collection Pod).listRequest selector = .error e →
      PodCheck d [] (.error (.request e))
  | failed {selector : String} {x : Exchange} {e : RequestError} :
      d.selector? = some selector → ListsPods d.metadata.namespaceOrEmpty selector x →
      x.reply.read (ListAnswer.items? (Resource.ofJson? (K := Pod))) = .error e →
      PodCheck d [x] (.error (.request e))
  | notOne {selector : String} {x : Exchange} {pods : List Pod} :
      d.selector? = some selector → ListsPods d.metadata.namespaceOrEmpty selector x →
      x.reply.HoldsPods pods → pods.length ≠ 1 →
      PodCheck d [x] (.error (.notReady ("expected exactly one pod for deployment " ++
        d.metadata.namespaceOrEmpty ++ "/" ++ d.metadata.nameToShow ++ ", found " ++ toString pods.length)))
  | notRunning {selector : String} {x : Exchange} {pod : Pod} :
      d.selector? = some selector → ListsPods d.metadata.namespaceOrEmpty selector x →
      x.reply.HoldsPods [pod] → pod.phase? ≠ some "Running" →
      PodCheck d [x] (.error (.notReady ("pod " ++ d.metadata.namespaceOrEmpty ++ "/" ++ pod.metadata.nameToShow ++
        " of deployment " ++ d.metadata.nameToShow ++ " is not running, it is " ++ pod.phase?.getD "Unknown")))
  | running {selector : String} {x : Exchange} {pod : Pod} :
      d.selector? = some selector → ListsPods d.metadata.namespaceOrEmpty selector x →
      x.reply.HoldsPods [pod] → pod.phase? = some "Running" →
      PodCheck d [x] (.ok pod)

namespace PodCheck

variable {d : Deployment} {xs : List Exchange} {r : Except ProbeError Pod}

theorem length_le_one (h : PodCheck d xs r) : xs.length ≤ 1 := by
  cases h <;> simp

/-- What passes is the only pod of the list, and it runs. -/
theorem ok_iff (h : PodCheck d xs r) (pod : Pod) :
    r = .ok pod ↔ ∃ x, xs = [x] ∧ x.reply.HoldsPods [pod] ∧ pod.phase? = some "Running" := by
  constructor
  · rintro rfl
    cases h with
    | running _ _ hpods hphase => exact ⟨_, rfl, hpods, hphase⟩
  · rintro ⟨x, rfl, hpods, hphase⟩
    cases h with
    | failed _ _ hread =>
      have hnever := hread.symm.trans hpods
      cases hnever
    | notOne _ _ hread hmany => exact absurd (congrArg List.length (hread.unique hpods)) hmany
    | notRunning _ _ hread hidle =>
      cases hread.unique hpods
      exact absurd hphase hidle
    | running _ _ hread =>
      cases hread.unique hpods
      rfl

end PodCheck

/-! ## Every run -/

theorem podCheck_of_pods {d : Deployment} {selector : String} {x : Exchange} {pods : List Pod}
    (hselector : d.selector? = some selector) (hlists : ListsPods d.metadata.namespaceOrEmpty selector x)
    (hpods : x.reply.HoldsPods pods) :
    PodCheck d [x] (singleRunning d.metadata.namespaceOrEmpty d.metadata.nameToShow pods) := by
  rcases pods with _ | ⟨pod, _ | ⟨pod', pods⟩⟩
  · exact .notOne hselector hlists hpods (by simp)
  · by_cases hphase : pod.phase? = some "Running"
    · have hpasses : singleRunning d.metadata.namespaceOrEmpty d.metadata.nameToShow [pod] = .ok pod := by
        simp [singleRunning, Platform.runningPhase, hphase]
      rw [hpasses]
      exact .running hselector hlists hpods hphase
    · -- the word that stands for an absent phase is not the one looked for
      have hidle : pod.phase?.getD "Unknown" ≠ Platform.runningPhase := by
        intro hrunning
        rcases hknown : pod.phase? with _ | phase <;> rw [hknown] at hphase hrunning
        · exact absurd hrunning (by decide)
        · exact hphase (congrArg some hrunning)
      rw [singleRunning, if_neg hidle]
      exact .notRunning hselector hlists hpods hphase
  · exact .notOne hselector hlists hpods (by simp)

theorem checkSingleRunningPod_check (d : Deployment) (w : World) :
    let run := checkSingleRunningPod d w
    ∃ xs, w.Asks xs run.2 ∧ PodCheck d xs run.1 := by
  intro run
  rcases hselector : d.selector? with _ | selector
  · simp only [run, checkSingleRunningPod, hselector]
    exact ⟨[], .nothing w, .unselective (Deployment.selector?_eq_none_iff.mp hselector)⟩
  · simp only [run, checkSingleRunningPod, hselector, Session.run_bind, Session.list]
    rcases hrequest : (Collection.within d.metadata.namespaceOrEmpty : Collection Pod).listRequest selector with e | q
    · exact ⟨[], .nothing w, .unsent hselector hrequest⟩
    · have hlists : ListsPods d.metadata.namespaceOrEmpty selector (w.asked q) := listsPods_of_request hrequest
      simp only [Session.send_ok]
      rcases hread : (w.asked q).reply.read (ListAnswer.items? (Resource.ofJson? (K := Pod))) with e | pods
      · exact ⟨[w.asked q], .once w q, .failed hselector hlists hread⟩
      · have hcheck := podCheck_of_pods hselector hlists hread
        rcases hjudged : singleRunning d.metadata.namespaceOrEmpty d.metadata.nameToShow pods with e | pod
        all_goals
          simp only [hjudged] at hcheck ⊢
          exact ⟨[w.asked q], .once w q, hcheck⟩

/-- How a check goes that waits for its deployment first, with the requests for the deployment and those for its
pods. -/
structure DeploymentCheck (ns name : String) (b : Budget) (w : World) (run : Except ProbeError Pod × World)
    (finds lists : List Exchange) : Prop where
  search : (waitForObject (.within ns : Collection Deployment) name b w).2.exchanges = w.exchanges ++ finds
  gets : ∀ x ∈ finds, Gets (.within ns : Collection Deployment) name x
  /-- What is asked after the search. -/
  asks : (waitForObject (.within ns : Collection Deployment) name b w).2.Asks lists run.2
  outcome : match (waitForObject (.within ns : Collection Deployment) name b w).1 with
    | .ok d => (∃ x, finds.getLast? = some x ∧ x.reply.read Resource.ofJson? = .ok d) ∧ PodCheck d lists run.1
    | .error e => lists = [] ∧ run = (.error e, (waitForObject (.within ns : Collection Deployment) name b w).2)

/-- Once the deployment is found, its pods are checked, and nothing else is asked. -/
theorem checkDeployment_of_found {ns name : String} {b : Budget} {w w₁ : World} {d : Deployment}
    (hfound : waitForObject (.within ns : Collection Deployment) name b w = (.ok d, w₁)) :
    let run := checkDeployment ns name b w
    ∃ lists, w₁.Asks lists run.2 ∧ PodCheck d lists run.1 := by
  intro run
  obtain ⟨lists, hasks, hcheck⟩ := checkSingleRunningPod_check d w₁
  simp only [run, checkDeployment, Session.run_bind, hfound]
  rcases hpod : checkSingleRunningPod d w₁ with ⟨e | pod, w₂⟩
  · simp only [hpod] at hasks hcheck
    exact ⟨lists, hasks, hcheck⟩
  · simp only [hpod] at hasks hcheck
    exact ⟨lists, hasks.log _ _, hcheck⟩

theorem checkDeployment_check (ns name : String) (b : Budget) (w : World) :
    ∃ finds lists, DeploymentCheck ns name b w (checkDeployment ns name b w) finds lists := by
  obtain ⟨finds, hfinds, hrequests, hends⟩ := waitForObject_ends (.within ns : Collection Deployment) name b w
  have hgets : ∀ x ∈ finds, Gets (.within ns : Collection Deployment) name x := by
    intro x hx
    exact gets_of_request (hrequests x hx)
  rcases hsearch : waitForObject (.within ns : Collection Deployment) name b w with ⟨e | d, w₁⟩
  · have hrun : checkDeployment ns name b w = (.error e, w₁) := by
      simp only [checkDeployment, Session.run_bind, hsearch]
    refine ⟨finds, [], hfinds, hgets, ?_, ?_⟩
    · rw [hrun, hsearch]
      exact .nothing w₁
    · rw [hrun, hsearch]
      exact ⟨rfl, rfl⟩
  · obtain ⟨lists, hasks, hcheck⟩ := checkDeployment_of_found hsearch
    rw [hsearch] at hends
    refine ⟨finds, lists, hfinds, hgets, ?_, ?_⟩
    · rw [hsearch]
      exact hasks
    · rw [hsearch]
      exact ⟨hends, hcheck⟩

theorem DeploymentCheck.length_lists_le_one {ns name : String} {b : Budget} {w : World}
    {run : Except ProbeError Pod × World} {finds lists : List Exchange}
    (h : DeploymentCheck ns name b w run finds lists) : lists.length ≤ 1 := by
  have houtcome := h.outcome
  split at houtcome
  · exact houtcome.2.length_le_one
  · simp [houtcome.1]

/-- Whatever a server has to say, the pods of a deployment are listed at most once, and what comes back settles the
check. The checks of the mesh find their deployments first and go on with what they found. -/
theorem checks_list_pods_once :
    (∀ (d : Deployment) (w : World), ∃ xs, w.Asks xs (checkSingleRunningPod d w).2 ∧ xs.length ≤ 1 ∧
      PodCheck d xs (checkSingleRunningPod d w).1 ∧
      ∀ pod, (checkSingleRunningPod d w).1 = .ok pod ↔
        ∃ x, xs = [x] ∧ x.reply.HoldsPods [pod] ∧ pod.phase? = some "Running") ∧
    (∀ w : World, ∃ finds lists, lists.length ≤ 1 ∧ DeploymentCheck "openshift-operators" "istio-operator"
      .existence w (checkMeshOperator w) finds lists) ∧
    ∀ w : World, ∃ finds lists, lists.length ≤ 1 ∧ DeploymentCheck "openshift-ingress" "istiod-openshift-gateway"
      .meshDeployment w (checkMesh w) finds lists := by
  refine ⟨?_, ?_, ?_⟩
  · intro d w
    obtain ⟨xs, hasks, hcheck⟩ := checkSingleRunningPod_check d w
    exact ⟨xs, hasks, hcheck.length_le_one, hcheck, hcheck.ok_iff⟩
  · intro w
    obtain ⟨finds, lists, hcheck⟩ := checkDeployment_check "openshift-operators" "istio-operator" .existence w
    exact ⟨finds, lists, hcheck.length_lists_le_one, hcheck⟩
  · intro w
    obtain ⟨finds, lists, hcheck⟩ :=
      checkDeployment_check "openshift-ingress" "istiod-openshift-gateway" .meshDeployment w
    exact ⟨finds, lists, hcheck.length_lists_le_one, hcheck⟩

end Checks

/-- A deployment of a namespace that would begin a fragment. What is asked for is the object whose name ends there,
without any selector, and a list under this name makes the check succeed. -/
theorem pods_behind_a_fragment :
    letI : ApiTypes := .any
    let d : Deployment := ⟨{ name := some "d", «namespace» := some "a#b" },
      some ⟨{ matchLabels := some (Dict.ofList [("app", "x")]) }, {}⟩⟩
    let listed : Response := ⟨.answer 200 (Text.utf8
      "\x7b\"items\":[\x7b\"metadata\":\x7b\"name\":\"p\"\x7d,\"status\":\x7b\"phase\":\"Running\"\x7d\x7d]\x7d"), 0⟩
    let run := checkSingleRunningPod d (.fresh [⟨.get, "/api/v1/namespaces/a", [listed]⟩])
    d.selector? = some "app=x" ∧ run.1 = .ok ⟨{ name := some "p" }, none, some ⟨some "Running"⟩⟩ ∧
      run.2.exchanges.map (fun x => (x.request.method, x.request.path, x.request.query)) =
        [(.get, "/api/v1/namespaces/a", [])] := by
  decide +kernel

end ClusterProbe
