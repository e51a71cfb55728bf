/-
  ClusterProbe.Proofs.Restraint — no check changes the cluster but as its name says.

  Whatever the server answers and however a run ends, a failure included,
  - a program that waits for something, or checks it, changes nothing;
  - one that creates posts each object at most once, and sends no other change;
  - one that removes deletes the object at most once, and sends no other change;
  - a change is never part of a poll, so that no deadline cuts it off and no attempt
    sends it again: it is sent on its own and waited for;
  - a run that ends in an unmet precondition has changed nothing.

  - `createOrGet_does`, `createHttpRoute_does`, `deleteAndConfirm_does`: what a run of
    these may change, from the rules of `Session.Does`.
  - `runs_restrained`: the five points of every program (`Session.Restrained`).
-/

import ClusterProbe.Check.Retire
import ClusterProbe.Check.Workload
import ClusterProbe.Proofs.Course
import ClusterProbe.Proofs.Reaching
import ClusterProbe.Proofs.Removal

namespace ClusterProbe

variable {K : Type} [Resource K]

/-! ## What only looks -/

theorem Collection.fetch_looks (c : Collection K) (name : String) : (c.fetch name).Looks := by
  unfold fetch
  split
  · trivial
  · rename_i q hq
    exact ⟨(getRequest_ok hq).1, fun r => trivial⟩

theorem pollObject_looks (c : Collection K) (name : String) (b : Budget) (passes : K → Readiness Unit) :
    (pollObject c name b passes).OnlyLooks :=
  .poll (fun _ => (c.fetch_looks name).map _) _ b

theorem waitForObject_looks (c : Collection K) (name : String) (b : Budget) : (waitForObject c name b).OnlyLooks :=
  pollObject_looks c name b _

theorem confirmGone_looks (c : Collection K) (name uid : String) (b : Budget) :
    (confirmGone c name uid b).OnlyLooks :=
  .poll (fun _ => (c.fetch_looks name).map _) _ b

theorem awaitGatewayClass_looks (name : String) : (awaitGatewayClass name).OnlyLooks :=
  (pollObject_looks _ _ _ _).reported _ _

theorem awaitGateway_looks (ns name : String) : (awaitGateway ns name).OnlyLooks :=
  (pollObject_looks _ _ _ _).reported _ _

theorem awaitHttpRoute_looks (ns name : String) (g : Gateway) : (awaitHttpRoute ns name g).OnlyLooks := by
  unfold awaitHttpRoute
  split
  · exact .throw _
  · exact (pollObject_looks _ _ _ _).reported _ _

theorem awaitDnsRecordWithin_looks (ns name : String) (b : Budget) : (awaitDnsRecordWithin ns name b).OnlyLooks :=
  (pollObject_looks _ _ _ _).reported _ _

theorem awaitDefinition_looks [ApiTypes] (name : String) : (awaitDefinition name).OnlyLooks :=
  (pollObject_looks _ _ _ _).reported _ _

theorem awaitSubscription_looks (ns name : String) : (awaitSubscription ns name).OnlyLooks :=
  (waitForObject_looks _ _ _).reported _ _

theorem awaitCatalogSource_looks (ns name : String) : (awaitCatalogSource ns name).OnlyLooks :=
  (pollObject_looks _ _ _ _).reported _ _

theorem awaitControlPlane_looks : awaitControlPlane.OnlyLooks :=
  (pollObject_looks _ _ _ _).reported _ _

theorem list_looks (c : Collection K) (selector : String) : (Session.list c selector).OnlyLooks :=
  .send (fun _ hq => (Collection.build_ok hq).1) _

theorem checkSingleRunningPod_looks [ApiTypes] (d : Deployment) : (checkSingleRunningPod d).OnlyLooks := by
  unfold checkSingleRunningPod
  dsimp only
  split
  · exact .throw _
  · refine (list_looks _ _).bind fun answer => ?_
    split
    · exact .throw _
    · split
      · exact .pure _
      · exact .throw _

theorem checkDeployment_looks [ApiTypes] (ns name : String) (b : Budget) :
    (checkDeployment ns name b).OnlyLooks :=
  (waitForObject_looks _ _ _).bind fun _ => (checkSingleRunningPod_looks _).reported _ _

theorem awaitHost_looks (host : String) (port : Nat) (b : Budget) : (awaitHost host port b).OnlyLooks := by
  refine .poll ?_ _ b
  intro n found
  trivial

theorem requireClient_looks : requireClient.OnlyLooks := fun _ => ⟨[], .nothing, rfl⟩

theorem awaitAnswer_looks (url : Http.Url) (b : Budget) (patience : Duration) :
    (awaitAnswer url b patience).OnlyLooks := by
  refine requireClient_looks.bind fun _ => .poll ?_ _ b
  intro n reply
  trivial

theorem awaitConnectable_looks (hostname : String) (url : Http.Url) (b : Budget) :
    (awaitConnectable hostname url b).OnlyLooks := by
  unfold awaitConnectable
  split
  · exact (awaitHost_looks _ _ b).bind fun _ => .info _
  · exact .debug _

theorem reachHost_looks (hostname : String) (p : Patience) : (reachHost hostname p).OnlyLooks := by
  have hurl : (requireUrl hostname).OnlyLooks := by
    unfold requireUrl
    split
    · exact .pure _
    · exact .throw _
  exact hurl.bind fun url => (awaitConnectable_looks hostname url _).bind fun _ =>
    (awaitAnswer_looks url _ _).bind fun _ => .info _

theorem checkReachableWithin_looks (hostname : String) (g : Gateway) (p : Patience) :
    (checkReachableWithin hostname g p).OnlyLooks := by
  rcases hrecord : g.recordName with e | ⟨ns, name⟩
  · unfold checkReachableWithin
    rw [hrecord]
    exact .throw e
  · rw [checkReachableWithin_eq hostname hrecord]
    exact (awaitDnsRecordWithin_looks ns name _).bind fun _ => reachHost_looks hostname p

/-! ## What changes something -/

/-- All that is changed is changed by requests of this method, which are some of these, each sent once at most and in
their order. -/
structure OnceEach (m : Method) (qs : List (Except RequestError Request)) (xs : List Exchange) : Prop where
  method : ∀ x ∈ xs, x.request.method = m
  once : (xs.map fun x => Except.ok x.request).Sublist qs

namespace OnceEach

variable {m : Method} {qs qs' : List (Except RequestError Request)} {xs ys : List Exchange}

theorem nothing (m : Method) (qs : List (Except RequestError Request)) : OnceEach m qs [] :=
  ⟨List.forall_mem_nil _, List.nil_sublist qs⟩

theorem append (h : OnceEach m qs xs) (h' : OnceEach m qs' ys) : OnceEach m (qs ++ qs') (xs ++ ys) where
  method := List.forall_mem_append.mpr ⟨h.method, h'.method⟩
  once := by
    rw [List.map_append]
    exact h.once.append h'.once

theorem fewer (h : OnceEach m qs xs) (hqs : qs.Sublist qs') : OnceEach m qs' xs :=
  ⟨h.method, h.once.trans hqs⟩

/-- One request that may not even be sent. -/
theorem single {q : Except RequestError Request} (hq : ∀ q', q = .ok q' → q'.method = m)
    (h : (xs.map fun x => Except.ok x.request).Sublist [q]) : OnceEach m [q] xs := by
  refine ⟨fun x hx => ?_, h⟩
  have hmem : Except.ok x.request ∈ [q] := h.subset (List.mem_map.mpr ⟨x, hx, rfl⟩)
  exact hq _ (List.mem_singleton.mp hmem).symm

end OnceEach

theorem Session.Does.send_once {α : Type} {m : Method} {q : Except RequestError Request}
    (hq : ∀ q', q = .ok q' → q'.method = m) (read : Reply → Except RequestError α) :
    (Session.send q read).Does fun xs _ => OnceEach m [q] xs :=
  (Session.Does.send q read).mono fun _ _ hxs => .single hq hxs

/-! ## What cannot fail for an unmet precondition -/

/-- No run ends in an unmet precondition. -/
def Session.NeverUnmet {α : Type} (s : Session α) : Prop := ∀ w m, (s w).1 ≠ .error (.precondition m)

namespace Session.NeverUnmet

variable {α β : Type} {s : Session α} {f : α → Session β}

theorem pure (a : α) : NeverUnmet (Pure.pure a) := by
  rintro w m ⟨⟩

theorem info (text : String) : (Session.info text).NeverUnmet := by
  rintro w m ⟨⟩

theorem debug (text : String) : (Session.debug text).NeverUnmet := by
  rintro w m ⟨⟩

theorem send (q : Except RequestError Request) (read : Reply → Except RequestError α) :
    (Session.send q read).NeverUnmet := by
  intro w m
  rcases q with e | q <;> simp [Session.send_error, Session.send_ok]

theorem bind (hs : s.NeverUnmet) (hf : ∀ a, (f a).NeverUnmet) : (s >>= f).NeverUnmet := by
  intro w m
  have hfirst := hs w m
  rw [Session.run_bind]
  rcases hrun : s w with ⟨e | a, w'⟩ <;> rw [hrun] at hfirst
  · rintro ⟨⟩
    exact hfirst rfl
  · exact hf a w' m

end Session.NeverUnmet

theorem createOrGet_neverUnmet (c : Collection K) {obj : K} {name : String}
    (hname : (Resource.metadata obj).name = some name) : (createOrGet c obj).NeverUnmet := by
  intro w m hrun
  obtain ⟨xs, hcreation, -⟩ := createOrGet_creation c obj w
  rw [hrun] at hcreation
  obtain ⟨e, he⟩ := hcreation.error_of_named hname
  cases he

theorem confirmGone_neverUnmet (c : Collection K) (name uid : String) (b : Budget) :
    (confirmGone c name uid b).NeverUnmet := by
  intro w m hrun
  obtain ⟨xs, -, -, hends⟩ := confirmGone_cases c name uid b w
  rw [hrun] at hends
  obtain ⟨n, last, he⟩ := hends
  cases he

theorem deleteFound_neverUnmet (c : Collection K) (name uid : String) (confirm : Budget) :
    (deleteFound c name uid confirm).NeverUnmet := by
  refine (Session.NeverUnmet.send _ _).bind fun answer => ?_
  split
  · split
    · exact .info _
    · rintro w m ⟨⟩
  · exact (Session.NeverUnmet.debug _).bind fun _ => (confirmGone_neverUnmet c name uid confirm).bind fun _ => .info _

/-- What is changed if the run ends in an unmet precondition: nothing. -/
def NothingIfUnmet {α : Type} (xs : List Exchange) (r : Except ProbeError α) : Prop :=
  ∀ m, r = .error (.precondition m) → xs = []

theorem Session.Does.nothingIfUnmet {α : Type} {s : Session α} {A : List Exchange → Prop}
    (h : s.Does fun xs _ => A xs) (hs : s.NeverUnmet) : s.Does fun xs r => A xs ∧ NothingIfUnmet xs r :=
  (h.with_result (R := fun r => ∀ m, r ≠ .error (.precondition m)) hs).mono fun _ _ hr =>
    ⟨hr.1, fun m hm => absurd hm (hr.2 m)⟩

/-! ## Creating -/

theorem createOrGet_once (c : Collection K) (obj : K) :
    (createOrGet c obj).Does fun xs _ => OnceEach .post [c.createRequest obj] xs := by
  have hcreate : (Session.create c obj).Does fun xs _ => OnceEach .post [c.createRequest obj] xs :=
    .send_once (fun q hq => (Collection.build_ok hq).1) _
  rcases hname : (Resource.metadata obj).name with _ | name
  · simp only [createOrGet, hname]
    exact .throw (.nothing _ _)
  · have hstored : (getStored c name).OnlyLooks := by
      refine Session.OnlyLooks.bind (.send (fun q hq => (Collection.getRequest_ok hq).1) _) fun answer => ?_
      split
      · exact .pure _
      · exact .throw _
    rw [createOrGet_of_named c hname]
    refine hcreate.bind_looks fun answer => ?_
    split
    · exact (Session.OnlyLooks.info _).bind fun _ => .pure _
    · split
      · exact (Session.OnlyLooks.debug _).bind fun _ => hstored
      · exact .throw _

theorem createOrGet_does (c : Collection K) (obj : K) :
    (createOrGet c obj).Does fun xs r => OnceEach .post [c.createRequest obj] xs ∧ NothingIfUnmet xs r := by
  rcases hname : (Resource.metadata obj).name with _ | name
  · simp only [createOrGet, hname]
    exact .throw ⟨.nothing _ _, fun _ _ => rfl⟩
  · exact (createOrGet_once c obj).nothingIfUnmet (createOrGet_neverUnmet c hname)

/-- What is posted for a route: the pod, the service in front of it, for some labels, and the route to the gateway. -/
def routeRequests [ApiTypes] (ns name hostname backend image : String) (labels : Dict String)
    (gateway gatewayNamespace : String) : List (Except RequestError Request) :=
  [(Collection.within ns).createRequest (Pod.echo backend ns image),
   (Collection.within ns).createRequest (Service.echo backend ns labels),
   (Collection.within ns).createRequest (HttpRoute.forwarding name ns gateway gatewayNamespace hostname backend)]

/-- The posts for a route, to some gateway and for some labels. -/
def PostsRoute [ApiTypes] (ns name hostname backend image : String) (xs : List Exchange) : Prop :=
  ∃ labels gateway gatewayNamespace,
    OnceEach .post (routeRequests ns name hostname backend image labels gateway gatewayNamespace) xs

theorem createHttpRoute_does [ApiTypes] (ns name hostname backend image : String) (g : Gateway) :
    (createHttpRoute ns name hostname backend g image).Does fun xs r =>
      PostsRoute ns name hostname backend image xs ∧ NothingIfUnmet xs r := by
  rcases reference_cases g with ⟨gateway, gatewayNamespace, -, -, href⟩ | ⟨-, href⟩
  · have hrun : createHttpRoute ns name hostname backend g image = (do
        let pod ← createOrGet (.within ns) (Pod.echo backend ns image)
        let _ ← createOrGet (.within ns) (Service.echo backend ns pod.metadata.labelsOrEmpty)
        createOrGet (.within ns) (HttpRoute.forwarding name ns gateway gatewayNamespace hostname backend)) := by
      simp only [createHttpRoute, requireReference, href, pure_bind]
    rw [hrun]
    refine Session.Does.nothingIfUnmet ?_ ?_
    · refine (createOrGet_once (.within ns) _).bind (fun xs pod hpod => ?_) fun xs e hpod => ?_
      · refine (createOrGet_once (.within ns) _).bind (fun ys service hservice => ?_) fun ys e hservice => ?_
        · refine (createOrGet_once (.within ns) _).mono fun zs r hroute => ?_
          exact ⟨_, _, _, hpod.append (hservice.append hroute)⟩
        · exact ⟨_, gateway, gatewayNamespace, (hpod.append hservice).fewer (List.sublist_append_left _ [_])⟩
      · exact ⟨.empty, gateway, gatewayNamespace, hpod.fewer (List.sublist_append_left _ [_, _])⟩
    · -- Each of the three objects has a name, so that no step ends in a precondition.
      exact (createOrGet_neverUnmet _ rfl).bind fun pod => (createOrGet_neverUnmet _ rfl).bind fun service =>
        createOrGet_neverUnmet _ rfl
  · unfold createHttpRoute requireReference
    rw [href]
    exact .throw ⟨⟨.empty, "", "", .nothing _ _⟩, fun _ _ => rfl⟩

theorem grantAdmin_does :
    grantAdmin.Does fun xs r =>
      OnceEach .post [Collection.clusterWide.createRequest (ClusterRoleBinding.toServiceAccount Platform.adminBinding
        Platform.adminRole Platform.ingressServiceAccount Platform.ingressOperator)] xs ∧ NothingIfUnmet xs r := by
  refine Session.Does.nothingIfUnmet ?_ ?_
  · exact (createOrGet_once _ _).bind_looks fun _ => (Session.OnlyLooks.info _).bind fun _ => .pure _
  · exact (createOrGet_neverUnmet _ rfl).bind fun _ => (Session.NeverUnmet.info _).bind fun _ => .pure _

/-! ## Removing -/

theorem deleteFound_once (c : Collection K) (name uid : String) (confirm : Budget) :
    (deleteFound c name uid confirm).Does fun xs _ => OnceEach .delete [c.deleteRequest name] xs := by
  have hdelete : (Session.delete c name).Does fun xs _ => OnceEach .delete [c.deleteRequest name] xs :=
    .send_once (fun q hq => (Collection.deleteRequest_ok hq).1) _
  refine hdelete.bind_looks fun answer => ?_
  split
  · split
    · exact .info _
    · exact .throw _
  · exact (Session.OnlyLooks.debug _).bind fun _ => (confirmGone_looks c name uid confirm).bind fun _ => .info _

theorem deleteAndConfirm_does (c : Collection K) (name : String) (find confirm : Budget) :
    (deleteAndConfirm c name find confirm).Does fun xs r =>
      OnceEach .delete [c.deleteRequest name] xs ∧ NothingIfUnmet xs r := by
  rw [deleteAndConfirm_eq]
  refine Session.Does.bind (waitForObject_looks c name find) ?_ ?_
  · rintro xs existing rfl
    rcases (Resource.metadata existing).uid with _ | uid
    · exact .throw ⟨.nothing _ _, fun _ _ => rfl⟩
    · exact (deleteFound_once c name uid confirm).nothingIfUnmet (deleteFound_neverUnmet c name uid confirm)
  · rintro xs e rfl
    exact ⟨.nothing _ _, fun _ _ => rfl⟩

/-! ## Every program -/

/-- What a run sends: `sent` in all, of this `alone` outside of its polls. -/
structure Restraint {α : Type} (may : List Exchange → Prop) (w : World) (run : Except ProbeError α × World)
    (sent alone : List Exchange) : Prop where
  exchanges : run.2.exchanges = w.exchanges ++ sent
  /-- The polls look; what is sent on its own is waited for. -/
  course : w.Course alone run.2
  /-- No change is made by a poll. -/
  changed : changes sent = changes alone
  /-- No change is cut off. -/
  answered : ∀ x ∈ changes sent, x.arrival ≤ run.2.clock
  may : may (changes sent)
  unmet : ∀ m, run.1 = .error (.precondition m) → changes sent = []

/-- Every run changes what it may, outside of its polls, and nothing if a precondition is unmet. -/
def Session.Restrained {α : Type} (s : Session α) (may : List Exchange → Prop) : Prop :=
  ∀ w, ∃ sent alone, Restraint may w (s w) sent alone

theorem Session.Does.restrained {α : Type} {s : Session α} {may : List Exchange → Prop}
    (h : s.Does fun xs r => may xs ∧ NothingIfUnmet xs r) : s.Restrained may := by
  intro w
  obtain ⟨alone, hcourse, hmay, hunmet⟩ := h w
  obtain ⟨sent, hsent, hchanges⟩ := hcourse.changes_eq
  refine ⟨sent, alone, hsent, hcourse, hchanges, ?_, ?_, ?_⟩
  · intro x hx
    rw [hchanges] at hx
    exact hcourse.answered x (List.mem_of_mem_filter hx)
  · rwa [hchanges]
  · intro m hm
    rw [hchanges]
    exact hunmet m hm

theorem Session.OnlyLooks.restrained {α : Type} {s : Session α} (h : s.OnlyLooks) : s.Restrained (· = []) :=
  Session.Does.restrained (h.mono fun _ _ hxs => ⟨hxs, fun _ _ => hxs⟩)

/-- No program changes the cluster but as it may. What waits and checks changes nothing; what creates posts each of
its objects once at most, and what removes deletes the object once at most, neither with any other change. No change
is made inside a poll, each is waited for, and a run that ends in an unmet precondition has made none. -/
theorem runs_restrained [ApiTypes] :
    (∀ (K : Type) [Resource K] (c : Collection K) (name : String) (b : Budget) (passes : K → Readiness Unit),
      (pollObject c name b passes).Restrained (· = [])) ∧
    (∀ (K : Type) [Resource K] (c : Collection K) (name : String) (b : Budget),
      (waitForObject c name b).Restrained (· = [])) ∧
    (∀ name, (awaitGatewayClass name).Restrained (· = [])) ∧
    (∀ ns name, (awaitGateway ns name).Restrained (· = [])) ∧
    (∀ ns name g, (awaitHttpRoute ns name g).Restrained (· = [])) ∧
    (∀ ns name, (awaitDnsRecord ns name).Restrained (· = [])) ∧
    (∀ ns name b, (awaitDnsRecordWithin ns name b).Restrained (· = [])) ∧
    (∀ name, (awaitDefinition name).Restrained (· = [])) ∧
    (∀ ns name, (awaitSubscription ns name).Restrained (· = [])) ∧
    (∀ ns name, (awaitCatalogSource ns name).Restrained (· = [])) ∧
    awaitControlPlane.Restrained (· = []) ∧
    (∀ ns name b, (checkDeployment ns name b).Restrained (· = [])) ∧
    checkMeshOperator.Restrained (· = []) ∧
    checkMesh.Restrained (· = []) ∧
    (∀ d, (checkSingleRunningPod d).Restrained (· = [])) ∧
    (∀ hostname g, (checkReachable hostname g).Restrained (· = [])) ∧
    (∀ hostname g p, (checkReachableWithin hostname g p).Restrained (· = [])) ∧
    (∀ (K : Type) [Resource K] (c : Collection K) (obj : K),
      (createOrGet c obj).Restrained (OnceEach .post [c.createRequest obj])) ∧
    (∀ name controller, (createGatewayClass name controller).Restrained
      (OnceEach .post [Collection.clusterWide.createRequest (GatewayClass.ofController name controller)])) ∧
    (∀ gatewayClass name ns domain, (createGateway gatewayClass name ns domain).Restrained
      (OnceEach .post [(Collection.within ns).createRequest
        (Gateway.openWildcard name ns gatewayClass.metadata.nameToShow domain)])) ∧
    (∀ ns name hostname backend g image, (createHttpRoute ns name hostname backend g image).Restrained
      (PostsRoute ns name hostname backend image)) ∧
    grantAdmin.Restrained (OnceEach .post [Collection.clusterWide.createRequest
      (ClusterRoleBinding.toServiceAccount Platform.adminBinding Platform.adminRole Platform.ingressServiceAccount
        Platform.ingressOperator)]) ∧
    (∀ (K : Type) [Resource K] (c : Collection K) (name : String) (find confirm : Budget),
      (deleteAndConfirm c name find confirm).Restrained (OnceEach .delete [c.deleteRequest name])) ∧
    (∀ name, (retireDefinition name).Restrained
      (OnceEach .delete [(Collection.clusterWide : Collection Definition).deleteRequest name])) ∧
    (∀ ns name, (retireSubscription ns name).Restrained
      (OnceEach .delete [(Collection.within ns : Collection Subscription).deleteRequest name])) ∧
    retireControlPlane.Restrained (OnceEach .delete
      [(Collection.within Platform.ingressOperand : Collection ControlPlane).deleteRequest Platform.controlPlane]) ∧
    revokeAdmin.Restrained (OnceEach .delete
      [(Collection.clusterWide : Collection ClusterRoleBinding).deleteRequest Platform.adminBinding]) := by
  refine ⟨?_, ?_, ?_, ?_, ?_, ?_, ?_, ?_, ?_, ?_, awaitControlPlane_looks.restrained, ?_,
    (checkDeployment_looks _ _ _).restrained, (checkDeployment_looks _ _ _).restrained, ?_, ?_, ?_, ?_, ?_, ?_, ?_,
    grantAdmin_does.restrained, ?_, ?_, ?_, (deleteAndConfirm_does _ _ _ _).restrained,
    (deleteAndConfirm_does _ _ _ _).restrained⟩
  · exact fun K _ c name b passes => (pollObject_looks c name b passes).restrained
  · exact fun K _ c name b => (waitForObject_looks c name b).restrained
  · exact fun name => (awaitGatewayClass_looks name).restrained
  · exact fun ns name => (awaitGateway_looks ns name).restrained
  · exact fun ns name g => (awaitHttpRoute_looks ns name g).restrained
  · exact fun ns name => (awaitDnsRecordWithin_looks ns name _).restrained
  · exact fun ns name b => (awaitDnsRecordWithin_looks ns name b).restrained
  · exact fun name => (awaitDefinition_looks name).restrained
  · exact fun ns name => (awaitSubscription_looks ns name).restrained
  · exact fun ns name => (awaitCatalogSource_looks ns name).restrained
  · exact fun ns name b => (checkDeployment_looks ns name b).restrained
  · exact fun d => (checkSingleRunningPod_looks d).restrained
  · exact fun hostname g => (checkReachableWithin_looks hostname g {}).restrained
  · exact fun hostname g p => (checkReachableWithin_looks hostname g p).restrained
  · exact fun K _ c obj => (createOrGet_does c obj).restrained
  · exact fun name controller => (createOrGet_does _ _).restrained
  · exact fun gatewayClass name ns domain => (createOrGet_does _ _).restrained
  · exact fun ns name hostname backend g image => (createHttpRoute_does ns name hostname backend image g).restrained
  · exact fun K _ c name find confirm => (deleteAndConfirm_does c name find confirm).restrained
  · exact fun name => (deleteAndConfirm_does _ _ _ _).restrained
  · exact fun ns name => (deleteAndConfirm_does _ _ _ _).restrained

end ClusterProbe
