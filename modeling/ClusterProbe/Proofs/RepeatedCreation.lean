/-
  ClusterProbe.Proofs.RepeatedCreation — creating the same object again and again.

  Runs share their ways with a server that remembers: the first call makes the object,
  and each later one is told that it is there and asks for it. As long as the server
  stands by what it said (`Server.Keeps`), every call yields an object of the one
  uid, the first by one request and each later one by two.

  - `Server.answer_respond_other`: a request takes no answer away from a request of
    another method or path.
  - `Collection.createRequest_of_getRequest`: a name that can be asked for is one whose
    object can be posted, the address of the collection being the shorter one.
  - `createOrGet_again`: one call when the object is there, which stays there.
  - `createOrGet_keeps_identity`: any number of calls, by induction on it.
-/

import ClusterProbe.Proofs.Creation
import ClusterProbe.Resource.Cluster

namespace ClusterProbe

/-! ## Addresses -/

namespace Http.Target

/-- The sign may stand in a query, or in a path or where the query begins. -/
def fits (inQuery : Bool) (c : Char) : Bool := if inQuery then isQueryChar c else c == '?' || isPathChar c

/-- The rest of an address, from within its query or before it, has only signs that may stand there. -/
def isSound : Bool → List Char → Bool
  | _, [] => true
  | inQuery, c :: cs => c == '#' || fits inQuery c && isSound (inQuery || c == '?') cs

theorem isSound_query (cs : List Char) : isSound true cs = (beforeFragment cs).all isQueryChar := by
  induction cs with
  | nil => rfl
  | cons c cs ih =>
    rw [isSound, Bool.true_or, ih]
    by_cases hc : c = '#'
    · simp [beforeFragment, hc]
    · simp [beforeFragment, hc, fits]

theorem isSound_path (cs : List Char) :
    isSound false cs = (((beforeFragment cs).takeWhile (· != '?')).all isPathChar &&
      ((beforeFragment cs).dropWhile (· != '?')).tail.all isQueryChar) := by
  induction cs with
  | nil => rfl
  | cons c cs ih =>
    rw [isSound, Bool.false_or]
    by_cases hc : c = '#'
    · simp [beforeFragment, hc]
    · by_cases hq : c = '?'
      · have hrest := isSound_query cs
        simp_all [beforeFragment, fits]
      · have hne : (c == '?') = false := by simpa using hq
        rw [hne, ih]
        have hhash : (c == '#') = false := by simpa using hc
        simp [beforeFragment, hc, hq, hhash, hne, fits, Bool.and_assoc]

theorem ofChars_eq_ok_iff {cs : List Char} : (∃ t, ofChars cs = .ok t) ↔ isSound false cs = true := by
  have hok : ∀ (b : Bool) (t : Target),
      (∃ t', (if b then .ok t else .error .invalidCharacter : Except UriFault Target) = .ok t') ↔ b = true := by
    intro b t
    cases b <;> simp
  rw [isSound_path]
  unfold ofChars
  dsimp only
  rcases (beforeFragment cs).dropWhile (· != '?') with _ | ⟨c, query⟩
  · exact hok _ _
  · exact hok _ _

/-- The beginning of a sound address is sound. -/
theorem isSound_of_append {inQuery : Bool} {cs ds : List Char} (h : isSound inQuery (cs ++ ds) = true) :
    isSound inQuery cs = true := by
  induction cs generalizing inQuery with
  | nil => rfl
  | cons c cs ih =>
    simp only [List.cons_append, isSound, Bool.or_eq_true, Bool.and_eq_true] at h ⊢
    exact h.imp_right fun hrest => ⟨hrest.1, ih hrest.2⟩

/-- A question mark behind it begins a query or is part of one. -/
theorem isSound_concat {inQuery : Bool} {cs : List Char} (h : isSound inQuery cs = true) :
    isSound inQuery (cs ++ ['?']) = true := by
  induction cs generalizing inQuery with
  | nil => cases inQuery <;> rfl
  | cons c cs ih =>
    simp only [List.cons_append, isSound, Bool.or_eq_true, Bool.and_eq_true] at h ⊢
    exact h.imp_right fun hrest => ⟨hrest.1, ih hrest.2⟩

/-- With a question mark in place of its end an address stays one. -/
theorem parse_concat_of_append {s r : String} (hr : 1 ≤ r.utf8ByteSize) {t : Target} (h : parse (s ++ r) = .ok t) :
    ∃ t, parse (s ++ "?") = .ok t := by
  unfold parse at h ⊢
  split at h
  · cases h
  · rename_i hshort
    have hmark : "?".utf8ByteSize = 1 := rfl
    rw [String.utf8ByteSize_append] at hshort ⊢
    rw [if_neg (by omega), ofChars_eq_ok_iff, String.toList_append]
    have hsound : isSound false (s ++ r).toList = true := ofChars_eq_ok_iff.mp ⟨t, h⟩
    rw [String.toList_append] at hsound
    exact isSound_concat (isSound_of_append hsound)

end Http.Target

variable {K : Type} [Resource K]

/-- What can be asked for by name can be posted: the address of the collection is the shorter one. -/
theorem Collection.createRequest_of_getRequest {c : Collection K} {name : String} {g : Request}
    (h : c.getRequest name = .ok g) (obj : K) : ∃ p, c.createRequest obj = .ok p := by
  unfold getRequest build at h
  split at h
  · cases h
  · split at h
    · cases h
    · rename_i t ht
      rw [String.append_assoc] at ht
      have hname : 1 ≤ ("/" ++ name).utf8ByteSize := by
        rw [String.utf8ByteSize_append]
        exact Nat.le_add_right 1 _
      obtain ⟨t', ht'⟩ := Http.Target.parse_concat_of_append hname ht
      exact ⟨_, by rw [createRequest, build, ht']⟩

/-! ## Requests that do not get in each other's way -/

namespace Server

/-- A route that serves a request of another method or path does not serve this one, now or after its next answer. -/
theorem not_serves_of_other {q q' : Request} (h : ¬(q.method = q'.method ∧ q.path = q'.path)) {r : Route}
    (hr : r.serves q = true) (otherwise : Response) :
    r.serves q' = false ∧ (r.next otherwise).2.serves q' = false := by
  have hroute : ¬(r.method = q'.method ∧ r.path = q'.path) := by
    simp only [Route.serves, Bool.and_eq_true, beq_iff_eq] at hr
    rwa [hr.1.1, hr.1.2]
  obtain ⟨m, p, xs⟩ := r
  have hnone : ∀ ys, (Route.mk m p ys).serves q' = false := by
    intro ys
    by_cases hm : m = q'.method
    · have hp : p ≠ q'.path := fun hp => hroute ⟨hm, hp⟩
      simp [Route.serves, hp]
    · simp [Route.serves, hm]
  refine ⟨hnone xs, ?_⟩
  rcases xs with - | ⟨x, - | ⟨y, rest⟩⟩
  · exact hnone []
  · exact hnone [x]
  · exact hnone (y :: rest)

theorem answerFrom_respondFrom_other {q q' : Request} (h : ¬(q.method = q'.method ∧ q.path = q'.path)) (k : Nat)
    (rs : List Route) : answerFrom q' k (respondFrom q rs).2 = answerFrom q' k rs := by
  induction rs with
  | nil => rfl
  | cons r rest ih =>
    by_cases hr : r.serves q
    · obtain ⟨hnow, hthen⟩ := not_serves_of_other h hr (notFound q.path)
      simp only [respondFrom, hr, if_true, answerFrom, List.find?_cons, hnow, hthen]
    · simp only [respondFrom, hr, Bool.false_eq_true, if_false, answerFrom, List.find?_cons] at ih ⊢
      split
      · rfl
      · exact ih

/-- What the server says to a request does not depend on requests of another method or path before it. -/
theorem answer_respond_other {q q' : Request} (h : ¬(q.method = q'.method ∧ q.path = q'.path)) (s : Server)
    (k : Nat) : (s.respond q).2.answer q' k = s.answer q' k := answerFrom_respondFrom_other h k s.routes

end Server

/-! ## One call -/

/-- The reply is an object of this uid. -/
def Reply.Gives (K : Type) [Resource K] (u : String) (r : Reply) : Prop :=
  ∃ obj, r.read (Resource.ofJson? (K := K)) = .ok obj ∧ (Resource.metadata obj).uid = some u

instance (u : String) (r : Reply) : Decidable (r.Gives K u) :=
  let found := (r.read (Resource.ofJson? (K := K))).toOption
  decidable_of_iff (found.bind (fun obj => (Resource.metadata obj).uid) = some u) (by
    unfold Reply.Gives
    simp only [found]
    rcases r.read (Resource.ofJson? (K := K)) with e | obj <;> simp [Except.toOption])

/-- The refusal that the reply is read as, if it is one. -/
def Reply.error? (r : Reply) : Option RequestError :=
  match r.read (fun _ => some ()) with
  | .error e => some e
  | .ok _ => none

instance (r : Reply) : Decidable r.SaysExists :=
  decidable_of_iff (r.error?.any RequestError.isAlreadyExists = true) (by
    unfold Reply.error?
    rcases hread : r.read (fun _ => some ()) with e | ⟨⟩
    · exact Reply.isAlreadyExists_iff hread
    · simpa using Reply.not_saysExists_of_ok hread)

/-- The result is an object of this uid. -/
def HasUid (u : String) (r : Except ProbeError K) : Prop := ∃ obj, r = .ok obj ∧ (Resource.metadata obj).uid = some u

/-- From now on the server says of a request to create the object that it is there, and gives it to whoever asks. -/
structure Server.Stores (K : Type) [Resource K] (p g : Request) (u : String) (s : Server) : Prop where
  taken : ∀ k, (s.answer p k).reply.SaysExists
  stored : ∀ k, (s.answer g k).reply.Gives K u

theorem World.asked_reply (w : World) (q : Request) : (w.asked q).reply = (w.server.answer q 0).reply := by
  rw [← Server.respond_fst]
  rfl

section Calls

variable {c : Collection K} {obj : K} {name u : String} {p g : Request} {w : World}

/-- A request that posts and one that gets have routes of their own. -/
theorem Collection.routes_differ (hp : c.createRequest obj = .ok p) (hg : c.getRequest name = .ok g) :
    ¬(p.method = g.method ∧ p.path = g.path) := by
  rintro ⟨hmethod, -⟩
  rw [(createRequest_ok hp).1, (getRequest_ok hg).1] at hmethod
  cases hmethod

/-- Asked both, the server still has the object. -/
theorem Server.Stores.respond {s : Server} (h : s.Stores K p g u) (hdiffer : ¬(p.method = g.method ∧ p.path = g.path)) :
    ((s.respond p).2.respond g).2.Stores K p g u where
  taken k := by
    rw [answer_respond_other (fun hgp => hdiffer ⟨hgp.1.symm, hgp.2.symm⟩), answer_respond]
    exact h.taken (k + 1)
  stored k := by
    rw [answer_respond, answer_respond_other hdiffer]
    exact h.stored (k + 1)

/-- The call that makes the object. -/
theorem createOrGet_first (hname : (Resource.metadata obj).name = some name) (hp : c.createRequest obj = .ok p)
    (hmade : (w.server.answer p 0).reply.Gives K u) :
    let run := createOrGet c obj w
    HasUid u run.1 ∧ run.2.server = (w.server.respond p).2 ∧ w.Asks [w.asked p] run.2 := by
  intro run
  obtain ⟨made, hread, huid⟩ := hmade
  rw [← World.asked_reply] at hread
  have hrun : run = (.ok made, (w.ask p).log .info ("Created " ++ (Resource.kind K).name ++ " " ++ name)) := by
    simp only [run, createOrGet_of_named c hname, Session.run_bind, Session.create, hp, Session.send_ok, hread,
      Session.run_info, Session.run_pure]
  rw [hrun]
  exact ⟨⟨made, rfl, huid⟩, rfl, (World.Asks.once w p).log _ _⟩

/-- A call when the object is there: it is found, and is still there. -/
theorem createOrGet_again (hname : (Resource.metadata obj).name = some name) (hp : c.createRequest obj = .ok p)
    (hg : c.getRequest name = .ok g) (h : w.server.Stores K p g u) :
    let run := createOrGet c obj w
    HasUid u run.1 ∧ run.2.server.Stores K p g u ∧ ∃ xs, w.Asks xs run.2 ∧ xs.map (·.request) = [p, g] := by
  intro run
  have hdiffer := Collection.routes_differ hp hg
  have htold : (w.asked p).reply.SaysExists := w.asked_reply p ▸ h.taken 0
  obtain ⟨e, hread⟩ : ∃ e, (w.asked p).reply.read (Resource.ofJson? (K := K)) = .error e := by
    rcases hread : (w.asked p).reply.read (Resource.ofJson? (K := K)) with e | made
    · exact ⟨e, rfl⟩
    · exact absurd htold (Reply.not_saysExists_of_ok hread)
  have hexists : e.isAlreadyExists = true := (Reply.isAlreadyExists_iff hread).mpr htold
  -- The world in which the object is asked for; the server has answered the posting by then.
  let told := (w.ask p).log .debug ((Resource.kind K).name ++ " " ++ name ++ " already exists, fetching it")
  obtain ⟨there, hstored, huid⟩ : (told.asked g).reply.Gives K u := by
    have hanswer : told.server.answer g 0 = w.server.answer g 0 := Server.answer_respond_other hdiffer w.server 0
    rw [World.asked_reply, hanswer]
    exact h.stored 0
  have hrun : run = (.ok there, told.ask g) := by
    simp only [run, createOrGet_of_named c hname, getStored, Session.run_bind, Session.create, Session.get, hp, hg,
      Session.send_ok, hread, hexists, if_true, Session.run_debug, hstored, Session.run_pure, told]
  rw [hrun]
  have hasks : w.Asks [w.asked p, told.asked g] (told.ask g) :=
    ((World.Asks.once w p).log _ _).trans (World.Asks.once told g)
  exact ⟨⟨there, rfl, huid⟩, h.respond hdiffer, _, hasks, rfl⟩

end Calls

/-! ## Any number of calls -/

/-- The program again and again, each time from where it left its surroundings the time before, whatever its result
was. -/
def Session.again {α : Type} (s : Session α) : Nat → World → List (Except ProbeError α) × World
  | 0, w => ([], w)
  | n + 1, w =>
    let (r, w) := s w
    let (rs, w) := s.again n w
    (r :: rs, w)

section Calls

variable {c : Collection K} {obj : K} {name u : String} {p g : Request} {w : World}

theorem createOrGet_again_and_again (hname : (Resource.metadata obj).name = some name)
    (hp : c.createRequest obj = .ok p) (hg : c.getRequest name = .ok g) (h : w.server.Stores K p g u) (n : Nat) :
    let run := (createOrGet c obj).again n w
    run.1.length = n ∧ (∀ r ∈ run.1, HasUid u r) ∧
      ∃ xs, w.Asks xs run.2 ∧ xs.map (·.request) = (List.replicate n [p, g]).flatten := by
  induction n generalizing w with
  | zero => exact ⟨rfl, List.forall_mem_nil _, [], .nothing w, rfl⟩
  | succ n ih =>
    obtain ⟨huid, hstores, xs, hasks, hxs⟩ := createOrGet_again hname hp hg h
    obtain ⟨hlength, huids, ys, hasks', hys⟩ := ih hstores
    refine ⟨congrArg (· + 1) hlength, List.forall_mem_cons.mpr ⟨huid, huids⟩, xs ++ ys, hasks.trans hasks', ?_⟩
    rw [List.map_append, hxs, hys, List.replicate_succ, List.flatten_cons]

/-- The server gives its answers as it does when there was no object of the name: it makes the first that is posted,
with this uid, refuses every later one because it is there, and gives it to whoever asks. -/
structure Server.Keeps (c : Collection K) (obj : K) (name u : String) (s : Server) : Prop where
  created : ∀ p, c.createRequest obj = .ok p → (s.answer p 0).reply.Gives K u
  taken : ∀ p k, c.createRequest obj = .ok p → 1 ≤ k → (s.answer p k).reply.SaysExists
  stored : ∀ g k, c.getRequest name = .ok g → (s.answer g k).reply.Gives K u

/-- However often an object is created or gotten, it is the one object that the first call made: each of the calls
yields one of its uid. The first call posts it, each later one posts it and then asks for it, and nothing else
is sent. -/
theorem createOrGet_keeps_identity (hname : (Resource.metadata obj).name = some name)
    (hg : c.getRequest name = .ok g) (hkeeps : w.server.Keeps c obj name u) {n : Nat} (hn : 1 ≤ n) :
    let run := (createOrGet c obj).again n w
    run.1.length = n ∧ (∀ r ∈ run.1, HasUid u r) ∧
      ∃ p xs, c.createRequest obj = .ok p ∧ w.Asks xs run.2 ∧
        xs.map (·.request) = p :: (List.replicate (n - 1) [p, g]).flatten ∧
        xs.countP (·.request.method == .post) = n ∧ xs.countP (·.request.method == .get) = n - 1 := by
  obtain ⟨p, hp⟩ := Collection.createRequest_of_getRequest hg obj
  have hdiffer := Collection.routes_differ hp hg
  obtain ⟨n, rfl⟩ : ∃ m, n = m + 1 := ⟨n - 1, by omega⟩
  obtain ⟨huid, hserver, hasks⟩ := createOrGet_first hname hp (hkeeps.created p hp)
  have hstores : (createOrGet c obj w).2.server.Stores K p g u := by
    rw [hserver]
    constructor
    · intro k
      rw [Server.answer_respond]
      exact hkeeps.taken p (k + 1) hp (Nat.le_add_left 1 k)
    · intro k
      rw [Server.answer_respond_other hdiffer]
      exact hkeeps.stored g k hg
  obtain ⟨hlength, huids, ys, hasks', hys⟩ := createOrGet_again_and_again hname hp hg hstores n
  have hrequests : ([w.asked p] ++ ys).map (·.request) = p :: (List.replicate n [p, g]).flatten := by
    rw [List.map_append, hys]
    rfl
  have hpost := (Collection.createRequest_ok hp).1
  have hget := (Collection.getRequest_ok hg).1
  have hcount : ∀ m : Method, ([w.asked p] ++ ys).countP (·.request.method == m) =
      (p :: (List.replicate n [p, g]).flatten).countP (·.method == m) := by
    intro m
    rw [← hrequests, List.countP_map]
    rfl
  refine ⟨congrArg (· + 1) hlength, List.forall_mem_cons.mpr ⟨huid, huids⟩, p, [w.asked p] ++ ys, hp,
    hasks.trans hasks', hrequests, ?_, ?_⟩
  · rw [hcount]
    simp [List.countP_flatten, hpost, hget]
  · rw [hcount]
    simp [List.countP_flatten, hpost, hget]

end Calls

def storedMap : List UInt8 := Text.utf8 "\x7b\"metadata\":\x7b\"name\":\"cm\",\"uid\":\"u\"\x7d\x7d"

def mapExists : List UInt8 :=
  Text.utf8 "\x7b\"status\":\"Failure\",\"reason\":\"AlreadyExists\",\"code\":409\x7d"

/-- A server without the object, which makes it with the uid `u` when it is posted. -/
def creatingServer : List Route :=
  [⟨.post, "/api/v1/namespaces/ns/configmaps", [⟨.answer 201 storedMap, 0⟩, ⟨.answer 409 mapExists, 5⟩]⟩,
   ⟨.get, "/api/v1/namespaces/ns/configmaps/cm", [⟨.answer 200 storedMap, 3⟩]⟩]

/-- The configuration map to be created. -/
def soughtMap : ConfigMap := ⟨{ name := some "cm" }, none⟩

theorem creatingServer_keeps :
    letI : ApiTypes := .any
    (World.fresh creatingServer).server.Keeps (.within "ns") soughtMap "cm" "u" := by
  let _types : ApiTypes := .any
  have hposted : ∀ p, (Collection.within "ns").createRequest soughtMap = .ok p →
      ∀ k, ((World.fresh creatingServer).server.answer p k).reply =
        if k = 0 then .answer 201 storedMap else .answer 409 mapExists := by
    intro p hp k
    obtain ⟨hmethod, hpath, -⟩ := Collection.createRequest_ok hp
    have hroute : p.path = "/api/v1/namespaces/ns/configmaps" := hpath.trans (by decide +kernel)
    have hserves : Route.serves ⟨.post, "/api/v1/namespaces/ns/configmaps",
        [⟨.answer 201 storedMap, 0⟩, ⟨.answer 409 mapExists, 5⟩]⟩ p = true := by
      simp [Route.serves, hmethod, hroute]
    simp only [World.fresh, creatingServer, Server.answer, Server.answerFrom, List.find?_cons, hserves,
      Option.bind_some, Route.response?]
    rcases k with - | - | k <;> rfl
  constructor
  · intro p hp
    rw [hposted p hp]
    decide +kernel
  · intro p k hp hk
    rw [hposted p hp, if_neg (Nat.one_le_iff_ne_zero.mp hk)]
    decide +kernel
  · intro g k hg
    rw [getRequest_map] at hg
    cases hg
    have hgot : ((World.fresh creatingServer).server.answer mapRequest k).reply = .answer 200 storedMap := by
      cases k <;> rfl
    rw [hgot]
    decide +kernel

/-- Three calls for a configuration map. -/
theorem createOrGet_keeps_identity_thrice :
    letI : ApiTypes := .any
    let run := (createOrGet (.within "ns") soughtMap).again 3 (.fresh creatingServer)
    run.1.length = 3 ∧ (∀ r ∈ run.1, HasUid "u" r) ∧
      ∃ p xs, (Collection.within "ns").createRequest soughtMap = .ok p ∧ (World.fresh creatingServer).Asks xs run.2 ∧
        xs.map (·.request) = p :: (List.replicate 2 [p, mapRequest]).flatten ∧
        xs.countP (·.request.method == .post) = 3 ∧ xs.countP (·.request.method == .get) = 2 :=
  letI : ApiTypes := .any
  createOrGet_keeps_identity (c := .within "ns") (rfl : (Resource.metadata soughtMap).name = some "cm")
    getRequest_map creatingServer_keeps (by decide : 1 ≤ 3)

end ClusterProbe
