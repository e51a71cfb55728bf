/-
  ClusterProbe.Proofs.Answers — from the bytes of an answer to the result of a check.

  A check that waits is told what to wait for by a judgement on structures. Seen from
  outside it waits for an answer whose raw JSON meets a condition (`Awaited`): an answer in
  time makes it succeed just when it is no failure, describes an object of the kind and
  meets the condition, and what the check returns is in that answer (`Awaited.Run`).

  - `checks_succeed_by_raw_json`: this holds of every check that waits for one object,
    whatever the server has to say, if its answers give no name twice and structures as
    objects.
-/

import ClusterProbe.Check.Await
import ClusterProbe.Proofs.Awaiting
import ClusterProbe.Proofs.Ending
import ClusterProbe.Proofs.Status

namespace ClusterProbe

/-! ## What is awaited -/

/-- What a check waits for: the object of a name, until an answer's raw JSON meets a condition. -/
structure Awaited (K α : Type) where
  collection : Collection K
  name : String
  budget : Budget
  /-- How the check itself judges an object. -/
  passes : K → Readiness Unit
  /-- The structures that the condition is about are no arrays. -/
  gives : Json → Bool
  meets : Json → Prop
  /-- What the check returns. -/
  result : Json → K → α

namespace Awaited

variable {K α : Type} [Resource K] (a : Awaited K α)

/-- If the reply is JSON and no failure, it gives no name twice and structures as objects. -/
def isRegular (r : Reply) : Bool :=
  match r.text.toOption.bind Json.read? with
  | some j => j.hasUniqueNames && a.gives j
  | none => true

/-- The reply is no failure, describes an object of the kind and meets the condition. -/
def Delivers (r : Reply) (v : α) : Prop :=
  ∃ s j obj, r.text = .ok s ∧ Json.read? s = some j ∧ Resource.ofJson? j = some obj ∧ a.meets j ∧ v = a.result j obj

/-- A run of the check, with the requests it sent. -/
structure Run (w : World) (run : Except ProbeError α × World) (xs : List Exchange) : Prop where
  exchanges : run.2.exchanges = w.exchanges ++ xs
  requests : ∀ x ∈ xs, a.collection.getRequest a.name = .ok x.request
  /-- If the object can be asked for at all, it is asked for again and again. -/
  polls : ∀ q, a.collection.getRequest a.name = .ok q → ∃ found starts,
    AskingRun (describe K a.name) a.budget q (verdict (describe K a.name) a.passes) w found xs starts ∧
      run.2.unlogged = found.2.unlogged
  delivered : ∀ x ∈ xs, x.arrival ≤ w.clock + a.budget.timeout.ticks → ∀ v, a.Delivers x.reply v → run.1 = .ok v
  delivers : ∀ v, run.1 = .ok v →
    ∃ x, xs.getLast? = some x ∧ x.arrival ≤ w.clock + a.budget.timeout.ticks ∧ a.Delivers x.reply v

/-- The check succeeds by what an answer says in raw JSON. -/
def Governs (check : Session α) (w : World) : Prop :=
  (∀ route ∈ w.server.routes, ∀ x ∈ route.responses, a.isRegular x.reply = true) → ∃ xs, a.Run w (check w) xs

end Awaited

/-! ## Answers of a server -/

theorem Route.mem_of_response? {r : Route} {k : Nat} {x : Response} (h : r.response? k = some x) : x ∈ r.responses := by
  rw [response?, Option.or_eq_some_iff] at h
  rcases h with h | ⟨-, h⟩
  · exact List.mem_of_getElem? h
  · exact List.mem_of_getLast? h

theorem Server.answer_cases (s : Server) (q : Request) (k : Nat) :
    (∃ route ∈ s.routes, s.answer q k ∈ route.responses) ∨ s.answer q k = notFound q.path := by
  rcases hx : (s.routes.find? (·.serves q)).bind (·.response? k) with _ | x
  · exact .inr (by simp [answer, answerFrom, hx])
  · obtain ⟨route, hroute, hx'⟩ := Option.bind_eq_some_iff.mp hx
    refine .inl ⟨route, List.mem_of_find?_eq_some hroute, ?_⟩
    simpa [answer, answerFrom, hx] using Route.mem_of_response? hx'

theorem Server.text_notFound (path : String) : ∃ e, (notFound path).reply.text = .error e := by
  unfold notFound Reply.text
  dsimp only
  split
  · exact ⟨_, rfl⟩
  · exact ⟨_, if_pos (by decide)⟩

theorem Reply.read_eq_ok_iff {α : Type} {decode : Json → Option α} {r : Reply} {a : α} :
    r.read decode = .ok a ↔ ∃ s j, r.text = .ok s ∧ Json.read? s = some j ∧ decode j = some a := by
  unfold read
  rcases r.text with e | s
  · simp
  · rcases hx : (Json.read? s).bind decode with _ | a'
    · simpa [hx] using fun j hj ha => by simp [hj, ha] at hx
    · obtain ⟨j, hj, ha'⟩ := Option.bind_eq_some_iff.mp hx
      simp [hj, ha']

variable {K : Type} [Resource K]

/-- A verdict that an object has come. -/
theorem decision_verdict_eq_ok {label : String} {passes : K → Readiness Unit} {r : Reply} {obj : K} :
    Poll.decision (verdict label passes r) = some (.ok obj) ↔
      r.read Resource.ofJson? = .ok obj ∧ passes obj = .ready () := by
  unfold verdict
  rcases r.read (Resource.ofJson? (K := K)) with e | obj'
  · rcases e with f | _ | _ | _ | _
    · by_cases hf : f.code = 400 ∨ f.code = 422 <;> simp [Poll.decision, hf]
    all_goals simp [Poll.decision]
  · rcases hpasses : passes obj' with ⟨⟩ | m <;>
      simp only [hpasses, Poll.decision, Option.some.injEq, Except.ok.injEq, reduceCtorEq, false_iff, not_and]
    · exact ⟨fun h => ⟨h, h ▸ hpasses⟩, And.left⟩
    · rintro rfl
      simp [hpasses]

namespace Awaited

variable {α : Type} {a : Awaited K α}

omit [Resource K] in
theorem isRegular_answer {s : Server} (h : ∀ route ∈ s.routes, ∀ x ∈ route.responses, a.isRegular x.reply = true)
    (q : Request) (k : Nat) : a.isRegular (s.answer q k).reply = true := by
  rcases s.answer_cases q k with ⟨route, hroute, hx⟩ | hx
  · exact h route hroute _ hx
  · obtain ⟨e, he⟩ := Server.text_notFound q.path
    simp [isRegular, hx, he, Except.toOption]

/-- What the check waits for is what its judgement comes down to. -/
structure Faithful (a : Awaited K α) (result : K → α) : Prop where
  positive : 0 < a.budget.interval.ticks
  passes_iff {j : Json} {obj : K} : Resource.ofJson? j = some obj → j.hasUniqueNames = true → a.gives j = true →
    (a.passes obj = .ready () ↔ a.meets j)
  result_eq {j : Json} {obj : K} : Resource.ofJson? j = some obj → j.hasUniqueNames = true →
    result obj = a.result j obj

variable {result : K → α}

/-- Of a regular reply, what is judged to have come is what it delivers. -/
theorem Faithful.delivers_iff (h : a.Faithful result) {r : Reply} (hr : a.isRegular r = true) (label : String) {v : α} :
    a.Delivers r v ↔ ∃ obj, Poll.decision (verdict label a.passes r) = some (.ok obj) ∧ v = result obj := by
  simp only [decision_verdict_eq_ok, Reply.read_eq_ok_iff, Delivers]
  constructor
  · rintro ⟨s, j, obj, hs, hj, hobj, hmeets, rfl⟩
    simp only [isRegular, hs, Except.toOption, Option.bind_some, hj, Bool.and_eq_true] at hr
    exact ⟨obj, ⟨⟨s, j, hs, hj, hobj⟩, (h.passes_iff hobj hr.1 hr.2).mpr hmeets⟩, (h.result_eq hobj hr.1).symm⟩
  · rintro ⟨obj, ⟨⟨s, j, hs, hj, hobj⟩, hpasses⟩, rfl⟩
    simp only [isRegular, hs, Except.toOption, Option.bind_some, hj, Bool.and_eq_true] at hr
    exact ⟨s, j, obj, hs, hj, hobj, (h.passes_iff hobj hr.1 hr.2).mp hpasses, h.result_eq hobj hr.1⟩

/-- What a check does that waits for one object: it polls, and tells what it found. -/
def check (a : Awaited K α) (found : K → String) (result : K → α) : Session α := do
  let obj ← pollObject a.collection a.name a.budget a.passes
  Session.info (found obj)
  return result obj

theorem run_check (a : Awaited K α) (found : K → String) (result : K → α) (w : World) :
    let polled := pollObject a.collection a.name a.budget a.passes w
    (a.check found result w).1 = polled.1.map result ∧ (a.check found result w).2.unlogged = polled.2.unlogged ∧
      (a.check found result w).2.exchanges = polled.2.exchanges := by
  intro polled
  rcases hp : pollObject a.collection a.name a.budget a.passes w with ⟨e | obj, w'⟩ <;>
    simp only [polled, check, Session.run_bind, hp, Session.run_info, Session.run_pure, Except.map,
      World.unlogged_log, World.exchanges_log, and_self]

/-- Without an address nothing is asked, and the poll can only run out of time. -/
theorem run_of_unsendable {e : RequestError} (hq : a.collection.getRequest a.name = .error e) (found : K → String)
    (result : K → α) (w : World) : a.Run w (a.check found result w) [] := by
  obtain ⟨hresult, -, hexchanges⟩ := a.run_check found result w
  obtain ⟨xs, hxs, hqs, hasked⟩ := poll_fetch_asked a.collection a.name (describe K a.name) a.budget
    (judge (describe K a.name) a.passes) (fun why => ⟨_, rfl⟩) w
  have hnone : xs = [] := List.eq_nil_iff_forall_not_mem.mpr fun x hx => by simpa [hq] using hqs x hx
  subst hnone
  refine ⟨hexchanges.trans hxs, by simp, fun q hq' => by simp [hq] at hq', by simp, fun v hv => ?_⟩
  rw [hresult] at hv
  change Poll.Asked _ _ _ _ (pollObject a.collection a.name a.budget a.passes w).1 at hasked
  generalize (pollObject a.collection a.name a.budget a.passes w).1 = r at hasked hv
  cases hasked with
  | ready hx => cases hx
  | failed hx => cases hx
  | timeout => cases hv

theorem Faithful.governs (h : a.Faithful result) (found : K → String) (w : World) :
    a.Governs (a.check found result) w := by
  intro hregular
  rcases hq : a.collection.getRequest a.name with e | q
  · exact ⟨[], run_of_unsendable hq found result w⟩
  obtain ⟨hresult, hend, hexchanges⟩ := a.run_check found result w
  obtain ⟨xs, starts, hpoll⟩ := poll_fetch_asking a.collection hq (describe K a.name) h.positive
    (judge (describe K a.name) a.passes) w
  simp only [judge_read] at hpoll
  change AskingRun _ _ _ _ _ (pollObject a.collection a.name a.budget a.passes w) _ _ at hpoll
  have hdelivers : ∀ x ∈ xs, ∀ v, a.Delivers x.reply v ↔
      ∃ obj, Poll.decision (verdict (describe K a.name) a.passes x.reply) = some (.ok obj) ∧ v = result obj := by
    intro x hx v
    obtain ⟨k, hk⟩ := hpoll.exists_answer hx
    exact h.delivers_iff (by rw [Exchange.reply, hk]; exact isRegular_answer hregular q k) _
  refine ⟨xs, hexchanges.trans hpoll.exchanges, fun x hx => by rw [hq, hpoll.requests x hx], fun q' hq' => ?_,
    fun x hx htime v hv => ?_, fun v hv => ?_⟩
  · rw [hq] at hq'
    cases hq'
    exact ⟨_, starts, hpoll, hend⟩
  · obtain ⟨obj, hdecides, rfl⟩ := (hdelivers x hx v).mp hv
    rw [hresult, (hpoll.result_of_decides hx htime hdecides).1]
    rfl
  · rw [hresult] at hv
    rcases hfound : (pollObject a.collection a.name a.budget a.passes w).1 with e | obj <;> rw [hfound] at hv
    · cases hv
    · cases hv
      obtain ⟨x, hx, htime, hdecides⟩ := hpoll.decides_of_ok hfound
      exact ⟨x, hx, htime, (hdelivers x (List.mem_of_getLast? hx) _).mpr ⟨obj, hdecides, rfl⟩⟩

/-! ## The checks -/

def definition [ApiTypes] (name : String) : Awaited Definition (Option String) where
  collection := .clusterWide
  name := name
  budget := .definitionEstablished
  passes := Definition.established
  gives _ := true
  meets := Reports "Established"
  result j _ := servedVersionAt j

theorem definition_faithful [ApiTypes] (name : String) : (definition name).Faithful Definition.servedVersion? where
  positive := show 0 < Budget.definitionEstablished.interval.ticks by decide
  passes_iff h hj _ := established_iff h hj
  result_eq h hj := servedVersion?_eq h hj

def gatewayClass (name : String) : Awaited GatewayClass GatewayClass where
  collection := .clusterWide
  name := name
  budget := .gatewayClassAccepted
  passes := accepted
  gives := givesConditions
  meets := Reports "Accepted"
  result _ c := c

theorem gatewayClass_faithful (name : String) : (gatewayClass name).Faithful id where
  positive := show 0 < Budget.gatewayClassAccepted.interval.ticks by decide
  passes_iff h _ hj := accepted_iff h hj
  result_eq _ _ := rfl

def gateway (ns name : String) : Awaited Gateway Gateway where
  collection := .within ns
  name := name
  budget := .gatewayAccepted
  passes := accepted
  gives := givesConditions
  meets := Reports "Accepted"
  result _ g := g

theorem gateway_faithful (ns name : String) : (gateway ns name).Faithful id where
  positive := show 0 < Budget.gatewayAccepted.interval.ticks by decide
  passes_iff h _ hj := accepted_iff h hj
  result_eq _ _ := rfl

def httpRoute (ns name : String) : Awaited HttpRoute HttpRoute where
  collection := .within ns
  name := name
  budget := .httpRouteAccepted
  passes := HttpRoute.attached
  gives := givesConditionsEach "parents"
  meets := Attached
  result _ r := r

theorem httpRoute_faithful (ns name : String) : (httpRoute ns name).Faithful id where
  positive := show 0 < Budget.httpRouteAccepted.interval.ticks by decide
  passes_iff h _ hj := attached_iff h hj
  result_eq _ _ := rfl

def dnsRecord (ns name : String) (b : Budget) : Awaited DnsRecord DnsRecord where
  collection := .within ns
  name := name
  budget := b
  passes := DnsRecord.published
  gives := givesConditionsEach "zones"
  meets := Published
  result _ r := r

theorem dnsRecord_faithful (ns name : String) {b : Budget} (hb : 0 < b.interval.ticks) :
    (dnsRecord ns name b).Faithful id where
  positive := hb
  passes_iff h _ hj := published_iff h hj
  result_eq _ _ := rfl

def controlPlane : Awaited ControlPlane ControlPlane where
  collection := .within Platform.ingressOperand
  name := Platform.controlPlane
  budget := .controlPlaneReady
  passes := ControlPlane.ready
  gives := givesReadiness
  meets := AllComponentsReady
  result _ c := c

theorem controlPlane_faithful : controlPlane.Faithful id where
  positive := show 0 < Budget.controlPlaneReady.interval.ticks by decide
  passes_iff h hnames hj := allComponentsReady_iff h hj hnames
  result_eq _ _ := rfl

def catalogSource (ns name : String) : Awaited CatalogSource CatalogSource where
  collection := .within ns
  name := name
  budget := .existence
  passes := CatalogSource.ready
  gives := givesConnectionState
  meets := InstallableFrom
  result _ c := c

theorem catalogSource_faithful (ns name : String) : (catalogSource ns name).Faithful id where
  positive := show 0 < Budget.existence.interval.ticks by decide
  passes_iff h _ hj := installableFrom_iff h hj
  result_eq _ _ := rfl

end Awaited

/-- Every check that waits for one object succeeds by the first answer in time whose raw JSON meets the condition,
and by nothing else. -/
theorem checks_succeed_by_raw_json [ApiTypes] (ns name : String) (b : Budget) (hb : 0 < b.interval.ticks)
    (g : Gateway) (w : World) :
    (Awaited.definition name).Governs (awaitDefinition name) w ∧
    (Awaited.gatewayClass name).Governs (awaitGatewayClass name) w ∧
    (Awaited.gateway ns name).Governs (awaitGateway ns name) w ∧
    (∀ ref, g.reference = .ok ref → (Awaited.httpRoute ns name).Governs (awaitHttpRoute ns name g) w) ∧
    (∀ e, g.reference = .error e → awaitHttpRoute ns name g w = (.error e, w)) ∧
    (Awaited.dnsRecord ns name b).Governs (awaitDnsRecordWithin ns name b) w ∧
    (Awaited.dnsRecord ns name .dnsRecordPublished).Governs (awaitDnsRecord ns name) w ∧
    Awaited.controlPlane.Governs awaitControlPlane w ∧
    (Awaited.catalogSource ns name).Governs (awaitCatalogSource ns name) w := by
  refine ⟨?_, ?_, ?_, fun ref href => ?_, fun e he => ?_, ?_, ?_, ?_, ?_⟩
  · exact (Awaited.definition_faithful name).governs _ w
  · exact (Awaited.gatewayClass_faithful name).governs _ w
  · exact (Awaited.gateway_faithful ns name).governs _ w
  · have hcheck : awaitHttpRoute ns name g = (Awaited.httpRoute ns name).check (fun _ => "Found httpRoute " ++ ns ++
        "/" ++ name ++ " " ++ acceptedType ++ " and " ++ resolvedRefsType ++ " on gateway " ++ ref.2 ++ "/" ++
        ref.1) id := by
      simp only [awaitHttpRoute, href]
      rfl
    rw [hcheck]
    exact (Awaited.httpRoute_faithful ns name).governs _ w
  · simp [awaitHttpRoute, he]
  · exact (Awaited.dnsRecord_faithful ns name hb).governs _ w
  · exact (Awaited.dnsRecord_faithful ns name (by decide)).governs _ w
  · exact Awaited.controlPlane_faithful.governs _ w
  · exact (Awaited.catalogSource_faithful ns name).governs _ w

/-- A record that is published in the second of its zones, at the second look. -/
theorem checks_succeed_by_raw_json_in_second_zone :
    let zones (text : String) : Response :=
      ⟨.answer 200 (Text.utf8 ("\x7b\"metadata\":\x7b\x7d,\"spec\":\x7b\x7d,\"status\":\x7b\"zones\":[" ++
        text ++ "]\x7d\x7d")), 20⟩
    let published := "\x7b\"conditions\":[\x7b\"type\":\"Published\",\"status\":\"True\"\x7d]\x7d"
    let w := World.fresh [⟨.get, "/apis/ingress.operator.openshift.io/v1/namespaces/ns/dnsrecords/r",
      [zones "\x7b\x7d", zones ("\x7b\x7d," ++ published)]⟩]
    let run := awaitDnsRecordWithin "ns" "r" (.ofSecs 1 5) w
    0 < (Budget.ofSecs 1 5).interval.ticks ∧ run.1.toBool = true ∧ run.2.clock = 1040 ∧
      ∃ xs, (Awaited.dnsRecord "ns" "r" (.ofSecs 1 5)).Run w run xs := by
  intro zones published w
  have hsucceeds : (awaitDnsRecordWithin "ns" "r" (.ofSecs 1 5) w).1.toBool = true ∧
      (awaitDnsRecordWithin "ns" "r" (.ofSecs 1 5) w).2.clock = 1040 := by decide +kernel
  have hregular : ∀ route ∈ w.server.routes, ∀ x ∈ route.responses,
      (Awaited.dnsRecord "ns" "r" (.ofSecs 1 5)).isRegular x.reply = true := by decide +kernel
  let _types : ApiTypes := .any
  obtain ⟨-, -, -, -, -, hrecord, -⟩ :=
    checks_succeed_by_raw_json "ns" "r" (.ofSecs 1 5) (by decide) ⟨{}, ⟨"", []⟩, none⟩ w
  exact ⟨by decide, hsucceeds.1, hsucceeds.2, hrecord hregular⟩

end ClusterProbe
