/-
  ClusterProbe.Proofs.RouteCreation — a route comes with a pod and a service.

  `createHttpRoute` takes three steps, each of them a creation: the echo pod, the service
  in front of it, the route. A step is taken only after the one before it yielded an
  object, and the first that fails is the result (`RouteCreation`). What the service is
  to look for are the labels of the pod that the server has, not of the one it was sent:
  an older pod may have been there.

  - `createHttpRoute_goes`: every run goes in one of these ways, and its requests are all
    it leaves behind apart from the log.
-/

import ClusterProbe.Check.Provision
import ClusterProbe.Proofs.Creation
import ClusterProbe.Proofs.Wire

namespace ClusterProbe

/-! ## What is sent -/

/-- Whatever is posted is of this kind. -/
def PostsOnly (P : Json → Prop) (xs : List Exchange) : Prop :=
  ∀ x ∈ xs, x.request.method = .post → ∃ body, x.request.body = some body ∧ P body

theorem Creation.postsOnly {K : Type} [Resource K] {c : Collection K} {obj : K} {xs : List Exchange}
    {r : Except ProbeError K} (h : Creation c obj xs r) {P : Json → Prop} (hP : P (Resource.toJson obj)) :
    PostsOnly P xs := by
  have hposts : ∀ x, Posts c obj x → ∃ body, x.request.body = some body ∧ P body := fun x hx => ⟨_, hx.body, hP⟩
  have hgets : ∀ name y, Gets c name y → y.request.method ≠ .post := fun name y hy => by simp [hy.method]
  intro x hx hmethod
  cases h with
  | unnamed => cases hx
  | unsent => cases hx
  | created _ hpost | refused _ hpost | unaskable _ hpost =>
    rw [List.mem_singleton.mp hx]
    exact hposts _ hpost
  | stored _ hpost _ hget | lost _ hpost _ hget =>
    rcases List.mem_pair.mp hx with rfl | rfl
    · exact hposts _ hpost
    · exact absurd hmethod (hgets _ _ hget)

/-- What is created under a name fails under that name. -/
theorem Creation.error_of_named {K : Type} [Resource K] {c : Collection K} {obj : K} {xs : List Exchange}
    {name : String} {e : ProbeError} (h : Creation c obj xs (.error e))
    (hname : (Resource.metadata obj).name = some name) : ∃ e', e = .create (Resource.kind K).name name e' := by
  cases h with
  | unnamed h => simp [hname] at h
  | unsent h | refused h | unaskable h | lost h => exact ⟨_, by rw [hname] at h; cases h; rfl⟩

/-- The service has this name, looks for these labels and carries them too. -/
def ServesLabels (name : String) (labels : Dict String) (j : Json) : Prop :=
  j.textAt ["metadata", "name"] = some name ∧
    j.at? ["metadata", "labels"] = some (Json.ofDict .string labels) ∧
    j.at? ["spec", "selector"] = some (Json.ofDict .string labels)

/-- The route has this name and leads the host from the gateway to port 80 of the backend. -/
def LeadsToBackend (name gateway gatewayNamespace hostname backend : String) (j : Json) : Prop :=
  j.textAt ["metadata", "name"] = some name ∧
    j.at? ["spec"] = some (.object
      [("parentRefs", .array [.object [("namespace", .string gatewayNamespace), ("name", .string gateway)]]),
       ("hostnames", .array [.string hostname]),
       ("rules", .array [.object
         [("backendRefs", .array [.object [("name", .string backend), ("port", Json.int 80)]])]])])

theorem servesLabels_echo [ApiTypes] (name ns : String) (labels : Dict String) :
    ServesLabels name labels (Resource.toJson (Service.echo name ns labels)) := ⟨rfl, rfl, rfl⟩

theorem leadsToBackend_forwarding (name ns gateway gatewayNamespace hostname backend : String) :
    LeadsToBackend name gateway gatewayNamespace hostname backend
      (Resource.toJson (HttpRoute.forwarding name ns gateway gatewayNamespace hostname backend)) := ⟨rfl, rfl⟩

/-! ## The ways of a route's creation -/

theorem reference_cases (g : Gateway) :
    (∃ gateway gatewayNamespace, g.metadata.name = some gateway ∧ g.metadata.namespace = some gatewayNamespace ∧
      g.reference = .ok (gateway, gatewayNamespace)) ∨
    (g.metadata.name = none ∨ g.metadata.namespace = none) ∧
      g.reference = .error (.precondition "gateway has no name or namespace") := by
  unfold Gateway.reference
  cases g.metadata.name <;> cases g.metadata.namespace <;> simp

variable [ApiTypes]

/-- Pod and service are there, by these requests for the one and for the other. The service is made for the labels
of the pod that the server has. -/
def BackendCreation (ns backend image : String) (xs ys : List Exchange) : Prop :=
  ∃ pod service, Creation (.within ns) (Pod.echo backend ns image) xs (.ok pod) ∧
    Creation (.within ns) (Service.echo backend ns pod.metadata.labelsOrEmpty) ys (.ok service) ∧
    PostsOnly (ServesLabels backend pod.metadata.labelsOrEmpty) ys

/-- The ways of a route's creation: what is asked, and the result. -/
inductive RouteCreation (ns name hostname backend image : String) (g : Gateway) :
    List Exchange → Except ProbeError HttpRoute → Prop
  | unreferenced : g.metadata.name = none ∨ g.metadata.namespace = none →
      RouteCreation ns name hostname backend image g [] (.error (.precondition "gateway has no name or namespace"))
  | noPod {gateway gatewayNamespace : String} {xs : List Exchange} {e : RequestError} :
      g.metadata.name = some gateway → g.metadata.namespace = some gatewayNamespace →
      Creation (.within ns) (Pod.echo backend ns image) xs (.error (.create "Pod" backend e)) →
      RouteCreation ns name hostname backend image g xs (.error (.create "Pod" backend e))
  | noService {gateway gatewayNamespace : String} {xs ys : List Exchange} {pod : Pod} {e : RequestError} :
      g.metadata.name = some gateway → g.metadata.namespace = some gatewayNamespace →
      Creation (.within ns) (Pod.echo backend ns image) xs (.ok pod) →
      Creation (.within ns) (Service.echo backend ns pod.metadata.labelsOrEmpty) ys
        (.error (.create "Service" backend e)) →
      PostsOnly (ServesLabels backend pod.metadata.labelsOrEmpty) ys →
      RouteCreation ns name hostname backend image g (xs ++ ys) (.error (.create "Service" backend e))
  | noRoute {gateway gatewayNamespace : String} {xs ys zs : List Exchange} {e : RequestError} :
      g.metadata.name = some gateway → g.metadata.namespace = some gatewayNamespace →
      BackendCreation ns backend image xs ys →
      Creation (.within ns) (HttpRoute.forwarding name ns gateway gatewayNamespace hostname backend) zs
        (.error (.create "HTTPRoute" name e)) →
      PostsOnly (LeadsToBackend name gateway gatewayNamespace hostname backend) zs →
      RouteCreation ns name hostname backend image g (xs ++ ys ++ zs) (.error (.create "HTTPRoute" name e))
  | made {gateway gatewayNamespace : String} {xs ys zs : List Exchange} {route : HttpRoute} :
      g.metadata.name = some gateway → g.metadata.namespace = some gatewayNamespace →
      BackendCreation ns backend image xs ys →
      Creation (.within ns) (HttpRoute.forwarding name ns gateway gatewayNamespace hostname backend) zs (.ok route) →
      PostsOnly (LeadsToBackend name gateway gatewayNamespace hostname backend) zs →
      RouteCreation ns name hostname backend image g (xs ++ ys ++ zs) (.ok route)

/-! ## Every run -/

/-- Every run goes in one of the ways of a route's creation, and its requests are all it leaves behind apart from
the log. -/
theorem createHttpRoute_goes (ns name hostname backend image : String) (g : Gateway) (w : World) :
    let run := createHttpRoute ns name hostname backend g image w
    ∃ xs, w.Asks xs run.2 ∧ RouteCreation ns name hostname backend image g xs run.1 := by
  intro run
  rcases reference_cases g with ⟨gateway, gatewayNamespace, hname, hns, href⟩ | ⟨hnone, href⟩
  · simp only [run, createHttpRoute, requireReference, href, Session.run_bind, Session.run_pure]
    obtain ⟨xs, hpod, hasks⟩ := createOrGet_creation (.within ns) (Pod.echo backend ns image) w
    rcases hrun : createOrGet (.within ns) (Pod.echo backend ns image) w with ⟨e | pod, w₁⟩
    all_goals simp only [hrun] at hpod hasks ⊢
    · obtain ⟨e, rfl⟩ := hpod.error_of_named rfl
      exact ⟨xs, hasks, .noPod hname hns hpod⟩
    obtain ⟨ys, hservice, hasks'⟩ := createOrGet_creation (.within ns)
      (Service.echo backend ns pod.metadata.labelsOrEmpty) w₁
    have hlabels := hservice.postsOnly (servesLabels_echo backend ns pod.metadata.labelsOrEmpty)
    rcases hrun' : createOrGet (.within ns) (Service.echo backend ns pod.metadata.labelsOrEmpty) w₁
      with ⟨e | service, w₂⟩
    all_goals simp only [hrun'] at hservice hasks' ⊢
    · obtain ⟨e, rfl⟩ := hservice.error_of_named rfl
      exact ⟨xs ++ ys, hasks.trans hasks', .noService hname hns hpod hservice hlabels⟩
    have hbackend : BackendCreation ns backend image xs ys := ⟨pod, service, hpod, hservice, hlabels⟩
    obtain ⟨zs, hroute, hasks''⟩ := createOrGet_creation (.within ns)
      (HttpRoute.forwarding name ns gateway gatewayNamespace hostname backend) w₂
    have hleads := hroute.postsOnly (leadsToBackend_forwarding name ns gateway gatewayNamespace hostname backend)
    refine ⟨xs ++ ys ++ zs, (hasks.trans hasks').trans hasks'', ?_⟩
    rcases hrun'' : (createOrGet (.within ns)
      (HttpRoute.forwarding name ns gateway gatewayNamespace hostname backend) w₂).1 with e | route
    all_goals rw [hrun''] at hroute
    · obtain ⟨e, rfl⟩ := hroute.error_of_named rfl
      exact .noRoute hname hns hbackend hroute hleads
    · exact .made hname hns hbackend hroute hleads
  · refine ⟨[], ?_, ?_⟩ <;>
      simp only [run, createHttpRoute, requireReference, href, Session.run_bind, Session.run_throw]
    · exact .nothing w
    · exact .unreferenced hnone

end ClusterProbe
