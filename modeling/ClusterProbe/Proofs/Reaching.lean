/-
  ClusterProbe.Proofs.Reaching — the way to a host through a gateway, phase by phase.

  The check goes through three polls, each with a budget of its own: for the gateway's
  record, for the host to resolve, for an answer over HTTP. The last two are searches
  (`Question.Search`), and each begins when the phase before it is over. The first poll
  neither looks up names nor sends HTTP requests, and the second sends none either, so
  that the scripts of both are met from their beginnings.

  - `checkReachableWithin_goes`: every run goes in one of the ways of `Reach`, and its
    contacts are those of the three phases, one phase after the other. A run that the
    first phase ends has not looked at the host: it is the same for every other host.
  - `record_behind_a_fragment`: namespace and name of the record stand in the address as
    they are, so that another object may be asked for. And a request for the host's URL
    ends the last phase when it comes to a response of status 200, even if it has been
    redirected and the response is another URL's.
-/

import ClusterProbe.Proofs.Questions
import ClusterProbe.Proofs.RouteCreation

namespace ClusterProbe

/-! ## Asking for a record -/

theorem Collection.dnsRecords_path (ns : String) : (within ns : Collection DnsRecord).path =
    "/apis/ingress.operator.openshift.io/v1/namespaces/" ++ ns ++ "/dnsrecords" := by
  have hshape : (within ns : Collection DnsRecord).path =
    "/apis/" ++ "ingress.operator.openshift.io/v1" ++ ("/namespaces/" ++ ns) ++ "/" ++ "dnsrecords" := rfl
  rw [hshape, ← String.toList_inj]
  simp

/-- The request for the record of this name in this namespace. -/
structure GetsRecord (ns name : String) (q : Request) : Prop where
  request : (Collection.within ns : Collection DnsRecord).getRequest name = .ok q
  method : q.method = .get
  path : q.path = Http.Target.pathOf
    ("/apis/ingress.operator.openshift.io/v1/namespaces/" ++ ns ++ "/dnsrecords/" ++ name)
  /-- No sign of namespace and name ends the path. -/
  whole : '?' ∉ ns.toList ++ name.toList → '#' ∉ ns.toList ++ name.toList →
    q = ⟨.get, "/apis/ingress.operator.openshift.io/v1/namespaces/" ++ ns ++ "/dnsrecords/" ++ name, [], none⟩

theorem getsRecord_of_request {ns name : String} {q : Request}
    (h : (Collection.within ns : Collection DnsRecord).getRequest name = .ok q) : GetsRecord ns name q := by
  have haddress : (Collection.within ns : Collection DnsRecord).path ++ "/" ++ name =
      "/apis/ingress.operator.openshift.io/v1/namespaces/" ++ ns ++ "/dnsrecords/" ++ name := by
    rw [Collection.dnsRecords_path, ← String.toList_inj]
    simp
  obtain ⟨hmethod, hpath⟩ := Collection.getRequest_ok h
  refine ⟨h, hmethod, by rw [hpath, Collection.objectPath, haddress], ?_⟩
  intro hmark hhash
  rw [← haddress]
  refine Collection.getRequest_whole h ?_ ?_ <;> rw [haddress]
  · simpa using hmark
  · simpa using hhash

/-! ## The ways of the check -/

/-- The first phase: the poll for the gateway's record, in the gateway's namespace. It asks for that record, with
nothing else outside. -/
structure RecordPoll (g : Gateway) (p : Patience) (w : World) (asked : List Event)
    (polled : Except ProbeError DnsRecord × World) : Prop where
  polls : ∃ ns name, g.metadata.namespace = some ns ∧ g.recordName = .ok (ns, name) ∧
    polled = pollObject (.within ns) name p.dnsRecord DnsRecord.published w ∧
    ∀ e ∈ asked, ∃ t q x, e = .exchange t q x ∧ GetsRecord ns name q
  makes : w.Makes asked polled.2

/-- The second phase, which an address does without: from `start` on the host resolves within the budget, and has done
so at this time. -/
inductive Connectable (w : World) (start : Nat) (url : Http.Url) (b : Budget) : List Event → Nat → Prop
  | ipv4 {value : Nat} : url.host = .ipv4 value → Connectable w start url b [] start
  | ipv6 {groups : List Nat} : url.host = .ipv6 groups → Connectable w start url b [] start
  | resolved {host a : String} {looked : List Event} {time : Nat} : url.host = .name host →
      (Question.host host (url.port.getD 80)).Search b w start looked time (.ok a) →
      Connectable w start url b looked time

/-- The ways of the check: the contacts of its three phases, the time at its end, and the result. -/
inductive Reach (hostname : String) (g : Gateway) (p : Patience) (w : World) :
    List Event → List Event → List Event → Nat → Except ProbeError Unit → Prop
  | unreferenced : g.metadata.name = none ∨ g.metadata.namespace = none →
      Reach hostname g p w [] [] [] w.clock (.error (.precondition "gateway has no name or namespace"))
  | unpublished {asked : List Event} {e : ProbeError} {w₁ : World} :
      RecordPoll g p w asked (.error e, w₁) → Reach hostname g p w asked [] [] w₁.clock (.error e)
  | noUrl {asked : List Event} {r : DnsRecord} {w₁ : World} {f : Http.UrlFault} :
      RecordPoll g p w asked (.ok r, w₁) → Http.Url.ofHostname hostname = .error f →
      Reach hostname g p w asked [] [] w₁.clock
        (.error (.precondition ("invalid hostname " ++ hostname ++ ": " ++ f.message)))
  | unresolved {asked looked : List Event} {r : DnsRecord} {w₁ : World} {url : Http.Url} {host : String} {time : Nat}
      {e : ProbeError} :
      RecordPoll g p w asked (.ok r, w₁) → Http.Url.ofHostname hostname = .ok url → url.host = .name host →
      (Question.host host (url.port.getD 80)).Search p.resolve w w₁.clock looked time (.error e) →
      Reach hostname g p w asked looked [] time (.error e)
  | noClient {asked looked : List Event} {r : DnsRecord} {w₁ : World} {url : Http.Url} {time : Nat} {text : String} :
      RecordPoll g p w asked (.ok r, w₁) → Http.Url.ofHostname hostname = .ok url →
      Connectable w w₁.clock url p.resolve looked time → w.client = .error text →
      Reach hostname g p w asked looked [] time (.error (.http text))
  | connected {asked looked probed : List Event} {r : DnsRecord} {w₁ : World} {url : Http.Url} {time end_ : Nat}
      {result : Except ProbeError Unit} :
      RecordPoll g p w asked (.ok r, w₁) → Http.Url.ofHostname hostname = .ok url →
      Connectable w w₁.clock url p.resolve looked time → w.client = .ok () →
      (Question.visit url p.request).Search p.http w time probed end_ result →
      Reach hostname g p w asked looked probed end_ result

/-! ## What one phase leaves to the next -/

section Phases

variable {w w' : World} {es : List Event} {start time : Nat} {url : Http.Url} {b : Budget}

/-- As long as no name was looked up, a search for a host finds what it would have found before. -/
theorem host_search_of_makes {host : String} {port : Nat} (h : w.Makes es w') (hes : es.countP Event.isLookup = 0)
    {looked : List Event} {r : Except ProbeError String}
    (hr : (Question.host host port).Search b w' start looked time r) :
    (Question.host host port).Search b w start looked time r := by
  refine hr.of_same_answers h.timer (funext fun k => ?_)
  rw [Question.host_answer_of_makes h, hes, Nat.zero_add]

theorem Connectable.of_makes (h : w.Makes es w') (hes : es.countP Event.isLookup = 0) {looked : List Event}
    (hc : Connectable w' start url b looked time) : Connectable w start url b looked time := by
  cases hc with
  | ipv4 hhost => exact .ipv4 hhost
  | ipv6 hhost => exact .ipv6 hhost
  | resolved hhost hsearch => exact .resolved hhost (host_search_of_makes h hes hsearch)

/-- The same of HTTP requests. -/
theorem visit_search_of_makes {patience : Duration} (h : w.Makes es w') (hes : es.countP Event.isProbe = 0)
    {probed : List Event} {r : Except ProbeError Unit}
    (hr : (Question.visit url patience).Search b w' start probed time r) :
    (Question.visit url patience).Search b w start probed time r := by
  refine hr.of_same_answers h.timer (funext fun k => ?_)
  rw [Question.visit_answer_of_makes h, hes, Nat.zero_add]

theorem RecordPoll.countP_eq_zero {g : Gateway} {p : Patience} {polled : Except ProbeError DnsRecord × World}
    (h : RecordPoll g p w es polled) {kind : Event → Bool} (hkind : ∀ t q x, kind (.exchange t q x) = false) :
    es.countP kind = 0 := by
  obtain ⟨ns, name, -, -, -, hasks⟩ := h.polls
  rw [List.countP_eq_zero]
  intro e he
  obtain ⟨t, q, x, rfl, -⟩ := hasks e he
  simp [hkind]

theorem Connectable.no_probes (h : Connectable w start url b es time) : es.countP Event.isProbe = 0 := by
  cases h with
  | ipv4 | ipv6 => rfl
  | resolved _ hr =>
    rw [List.countP_eq_zero]
    intro e he
    obtain ⟨t, x, rfl⟩ := hr.asked e he
    simp [Question.host, Event.isProbe]

end Phases

theorem awaitConnectable_makes (hostname : String) (url : Http.Url) (b : Budget) (w : World) :
    let run := awaitConnectable hostname url b w
    ∃ looked, w.Makes looked run.2 ∧ match run.1 with
      | .ok () => Connectable w w.clock url b looked run.2.clock
      | .error e => ∃ host, url.host = .name host ∧
          (Question.host host (url.port.getD 80)).Search b w w.clock looked run.2.clock (.error e) := by
  intro run
  rcases hhost : url.host with host | value | groups
  · obtain ⟨looked, hmakes, hsearch⟩ := Question.awaitHost_search host (url.port.getD 80) b w
    rcases hrun : awaitHost host (url.port.getD 80) b w with ⟨e | a, w'⟩ <;> simp only [hrun] at hmakes hsearch <;>
      refine ⟨looked, ?_⟩ <;> simp only [run, awaitConnectable, hhost, Session.run_bind, hrun]
    · exact ⟨hmakes, host, rfl, hsearch⟩
    · exact ⟨hmakes.log _ _, .resolved hhost hsearch⟩
  · simp only [run, awaitConnectable, hhost]
    exact ⟨[], (World.Makes.nothing w).log _ _, .ipv4 hhost⟩
  · simp only [run, awaitConnectable, hhost]
    exact ⟨[], (World.Makes.nothing w).log _ _, .ipv6 hhost⟩

/-- The check once the record is published: only now the host counts. -/
def reachHost (hostname : String) (p : Patience) : Session Unit := do
  let url ← requireUrl hostname
  awaitConnectable hostname url p.resolve
  awaitAnswer url p.http p.request
  Session.info ("Got " ++ Http.statusText 200 ++ " from " ++ url.text)

theorem checkReachableWithin_eq (hostname : String) {g : Gateway} {ns name : String}
    (h : g.recordName = .ok (ns, name)) (p : Patience) :
    checkReachableWithin hostname g p =
      awaitDnsRecordWithin ns name p.dnsRecord >>= fun _ => reachHost hostname p := by
  simp only [checkReachableWithin, h, reachHost]

variable {hostname : String} {g : Gateway} {p : Patience} {w w₁ : World} {asked : List Event} {r : DnsRecord}

theorem reachHost_goes (hostname : String) (hpoll : RecordPoll g p w asked (.ok r, w₁)) (l : Level) (s : String) :
    let run := reachHost hostname p (w₁.log l s)
    ∃ looked probed, w.Makes (asked ++ looked ++ probed) run.2 ∧
      Reach hostname g p w asked looked probed run.2.clock run.1 := by
  intro run
  have hpublished : w.Makes asked (w₁.log l s) := hpoll.makes.log l s
  rcases hurl : Http.Url.ofHostname hostname with f | url
  · simp only [run, reachHost, requireUrl, hurl, Session.run_bind, Session.run_throw]
    have hreach := Reach.noUrl hpoll hurl
    exact ⟨[], [], by simpa using hpublished, hreach⟩
  obtain ⟨looked, hlooked, hconnectable⟩ := awaitConnectable_makes hostname url p.resolve (w₁.log l s)
  rcases hrun : awaitConnectable hostname url p.resolve (w₁.log l s) with ⟨e | ⟨⟩, w₂⟩ <;>
    simp only [hrun] at hlooked hconnectable <;>
    simp only [run, reachHost, requireUrl, hurl, Session.run_bind, Session.run_pure, hrun]
  · obtain ⟨host, hhost, hsearch⟩ := hconnectable
    refine ⟨looked, [], by simpa using hpublished.trans hlooked, .unresolved hpoll hurl hhost ?_⟩
    exact host_search_of_makes hpublished (hpoll.countP_eq_zero fun _ _ _ => rfl) hsearch
  have hconnected := hconnectable.of_makes hpublished (hpoll.countP_eq_zero fun _ _ _ => rfl)
  have hreached := hpublished.trans hlooked
  rcases hclient : w.client with text | ⟨⟩
  · rw [Question.awaitAnswer_of_noClient url p.http p.request (hreached.client.trans hclient)]
    exact ⟨looked, [], by simpa using hreached, .noClient hpoll hurl hconnected hclient⟩
  obtain ⟨probed, hprobed, hsearch⟩ :=
    Question.awaitAnswer_search url p.http p.request (hreached.client.trans hclient)
  have hquiet : (asked ++ looked).countP Event.isProbe = 0 := by
    rw [List.countP_append, hpoll.countP_eq_zero fun _ _ _ => rfl, hconnectable.no_probes]
  have hmakes := hreached.trans hprobed
  have hreach := Reach.connected hpoll hurl hconnected hclient (visit_search_of_makes hreached hquiet hsearch)
  rcases hrun' : awaitAnswer url p.http p.request w₂ with ⟨e | ⟨⟩, w₃⟩ <;> simp only [hrun'] at hmakes hreach
  · exact ⟨looked, probed, hmakes, hreach⟩
  · exact ⟨looked, probed, hmakes.log _ _, hreach⟩

/-! ## Every run -/

/-- Every run goes in one of the ways of the check, and its contacts are those of the phases in their order. A gateway
that is not named ends it before anything happens; a failure to see the record published ends it there, whatever the
host is. -/
theorem checkReachableWithin_goes (hostname : String) (g : Gateway) (p : Patience) (w : World) :
    let run := checkReachableWithin hostname g p w
    (∃ asked looked probed, run.2.contacts = w.contacts ++ asked ++ looked ++ probed ∧
      Reach hostname g p w asked looked probed run.2.clock run.1) ∧
    (g.metadata.name = none ∨ g.metadata.namespace = none →
      run = (.error (.precondition "gateway has no name or namespace"), w)) ∧
    ∀ ns name e w', g.recordName = .ok (ns, name) →
      pollObject (.within ns) name p.dnsRecord DnsRecord.published w = (.error e, w') →
      ∀ hostname', checkReachableWithin hostname' g p w = (.error e, w') := by
  intro run
  have hends : ∀ ns name e w', g.recordName = .ok (ns, name) →
      pollObject (.within ns) name p.dnsRecord DnsRecord.published w = (.error e, w') →
      ∀ hostname', checkReachableWithin hostname' g p w = (.error e, w') := by
    intro ns name e w' hrecord hpolled hostname'
    simp only [checkReachableWithin_eq hostname' hrecord, awaitDnsRecordWithin, Session.run_bind, hpolled]
  rcases reference_cases g with ⟨gateway, ns, hname, hns, href⟩ | ⟨hnone, href⟩
  · refine ⟨?_, fun hnone => by simp [hname, hns] at hnone, hends⟩
    obtain ⟨name, hrecord⟩ : ∃ name, g.recordName = .ok (ns, name) := ⟨_, by rw [Gateway.recordName, href]⟩
    obtain ⟨asked, hmakes, hasks⟩ := pollObject_makes (.within ns) name p.dnsRecord DnsRecord.published w
    have hgets : ∀ e ∈ asked, ∃ t q x, e = .exchange t q x ∧ GetsRecord ns name q := by
      intro e he
      obtain ⟨t, q, x, rfl, hq⟩ := hasks e he
      exact ⟨t, q, x, rfl, getsRecord_of_request hq⟩
    have hpoll : RecordPoll g p w asked (pollObject (.within ns) name p.dnsRecord DnsRecord.published w) :=
      ⟨⟨ns, name, hns, hrecord, rfl, hgets⟩, hmakes⟩
    rcases hpolled : pollObject (.within ns) name p.dnsRecord DnsRecord.published w with ⟨e | r, w₁⟩ <;>
      rw [hpolled] at hpoll
    · have hrun : run = (.error e, w₁) := hends ns name e w₁ hrecord hpolled hostname
      rw [hrun]
      exact ⟨asked, [], [], by simpa using hpoll.makes.contacts, .unpublished hpoll⟩
    · obtain ⟨looked, probed, hrest, hreach⟩ := reachHost_goes hostname hpoll .info
        ("Found DNSRecord " ++ ns ++ "/" ++ name ++ " " ++ publishedType ++ " for " ++ r.spec.dnsName)
      refine ⟨asked, looked, probed, ?_⟩
      simp only [run, checkReachableWithin_eq hostname hrecord, awaitDnsRecordWithin, Session.run_bind, hpolled,
        Session.run_info, Session.run_pure]
      exact ⟨by simpa using hrest.contacts, hreach⟩
  · have hrecord : g.recordName = .error (.precondition "gateway has no name or namespace") := by
      rw [Gateway.recordName, href]
    have hrun : run = (.error (.precondition "gateway has no name or namespace"), w) := by
      simp only [run, checkReachableWithin, hrecord, Session.run_throw]
    refine ⟨⟨[], [], [], ?_⟩, fun _ => hrun, hends⟩
    rw [hrun]
    exact ⟨by simp, .unreferenced hnone⟩

/-- The host has an address at the second lookup, and the third HTTP request ends in the status 200. -/
example :
    let g : Gateway := ⟨{ name := some "gw", «namespace» := some "ns" }, ⟨"class", []⟩, none⟩
    let record := "\x7b\"metadata\":\x7b\x7d,\"spec\":\x7b\x7d,\"status\":\x7b\"zones\":" ++
      "[\x7b\"conditions\":[\x7b\"type\":\"Published\",\"status\":\"True\"\x7d]\x7d]\x7d\x7d"
    let path := "/apis/ingress.operator.openshift.io/v1/namespaces/ns/dnsrecords/gw-65bb57b6b5-wildcard"
    let answers (code : Nat) : Visit := .atOnce fun url => .response url code
    let run := checkReachableWithin "host.example" g {}
      { World.fresh [⟨.get, path, [⟨.answer 200 (Text.utf8 record), 0⟩]⟩] with
        resolver := ⟨fun _ _ => ⟨300, .failure "down"⟩, [fun _ _ => ⟨40, .addresses ["10.0.0.1"]⟩]⟩
        visits := ⟨.atOnce fun _ => .failure "down", [answers 503, answers 200]⟩ }
    run.1 = .ok () ∧ run.2.contacts.map Event.isProbe = [false, false, false, true, true, true] := by
  decide +kernel

/-- A gateway of a namespace that would begin a fragment. What is asked for is the object whose name ends there, and
that it is published lets the check go on. The host's URL leads to another one, and that one's status is what counts. -/
theorem record_behind_a_fragment :
    let g : Gateway := ⟨{ name := some "gw", «namespace» := some "a#b" }, ⟨"class", []⟩, none⟩
    let record := "\x7b\"metadata\":\x7b\x7d,\"spec\":\x7b\x7d,\"status\":\x7b\"zones\":" ++
      "[\x7b\"conditions\":[\x7b\"type\":\"Published\",\"status\":\"True\"\x7d]\x7d]\x7d\x7d"
    let path := "/apis/ingress.operator.openshift.io/v1/namespaces/a"
    let url (host : String) : Http.Url := ⟨"", none, .name host, none, "/", ""⟩
    let run := checkReachableWithin "host.example" g {}
      { World.fresh [⟨.get, path, [⟨.answer 200 (Text.utf8 record), 0⟩]⟩] with
        resolver := ⟨fun _ _ => ⟨0, .addresses ["10.0.0.1"]⟩, []⟩
        visits := ⟨.atOnce fun _ => .response (url "other.example") 200, []⟩ }
    g.recordName = .ok ("a#b", "gw-65bb57b6b5-wildcard") ∧ run.1 = .ok () ∧
      run.2.exchanges.map (fun x => (x.request.method, x.request.path)) = [(.get, path)] ∧
      run.2.contacts.filterMap (fun | .probe _ asked _ reply => some (asked, reply.result) | _ => none) =
        [(url "host.example", .response (url "other.example") 200)] := by
  decide +kernel

end ClusterProbe
