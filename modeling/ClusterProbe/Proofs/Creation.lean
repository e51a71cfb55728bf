/-
  ClusterProbe.Proofs.Creation — creating an object, or getting the one that is there.

  `createOrGet` never waits for a change: it asks at most twice, each time for as long as
  the answer takes. How that goes is one of the ways of `Creation`. Only a refusal that
  describes itself, with code 409 and the reason `AlreadyExists`, makes it ask for the
  object by name (`SaysExists`). A page of code 409 that is no such description, an answer
  that cannot be read and a connection that fails are all reported as what they are.

  - `createOrGet_creation`: every run is a creation, and its requests are all it leaves
    behind apart from the log (`World.Asks`).
  - `createOrGet_asks_at_most_twice`: the object is posted, and asked for exactly if it
    is said to be there.
-/

import ClusterProbe.Proofs.Ending

namespace ClusterProbe

/-! ## Asking and nothing else -/

namespace World

/-- What was logged before does not matter. -/
theorem unlogged_foldl_ask {w w' : World} (h : w.unlogged = w'.unlogged) (qs : List Request) :
    (qs.foldl ask w).unlogged = (qs.foldl ask w').unlogged := by
  induction qs generalizing w w' with
  | nil => exact h
  | cons q qs ih => exact ih (by rw [unlogged_ask, unlogged_ask, h])

/-- The second world comes of the first by these requests, each sent when the one before was answered, and by
nothing else that is not in the log. -/
structure Asks (w : World) (xs : List Exchange) (w' : World) : Prop where
  exchanges : w'.exchanges = w.exchanges ++ xs
  unlogged : w'.unlogged = ((xs.map (·.request)).foldl ask w).unlogged

namespace Asks

variable {w w' w'' : World} {xs ys : List Exchange}

theorem nothing (w : World) : w.Asks [] w := ⟨by simp, rfl⟩

theorem once (w : World) (q : Request) : w.Asks [w.asked q] (w.ask q) := ⟨exchanges_ask w q, rfl⟩

theorem log (h : w.Asks xs w') (l : Level) (s : String) : w.Asks xs (w'.log l s) :=
  ⟨by rw [exchanges_log, h.exchanges], by rw [unlogged_log, h.unlogged]⟩

theorem trans (h : w.Asks xs w') (h' : w'.Asks ys w'') : w.Asks (xs ++ ys) w'' where
  exchanges := by rw [h'.exchanges, h.exchanges, List.append_assoc]
  unlogged := by rw [h'.unlogged, List.map_append, List.foldl_append, unlogged_foldl_ask h.unlogged]

end Asks

end World

/-! ## Refusals -/

namespace Reply

/-- The reply is a refusal for the reason that the object is already there. It says so itself: both code
and reason are those of its text. -/
def SaysExists (r : Reply) : Prop :=
  ∃ status body s j f, r = .answer status body ∧ Http.isFailure status = true ∧ Text.decode body = .ok s ∧
    Json.read? s = some j ∧ Refusal.ofJson? j = some f ∧ f.code = 409 ∧ f.reason = "AlreadyExists"

variable {α : Type} {decode : Json → Option α} {r : Reply} {e : RequestError}

/-- What fails to describe itself has a reason of its own. -/
theorem ofAnswer_exists {status : Nat} {s : String}
    (h : (RequestError.refused (.ofAnswer status s)).isAlreadyExists = true) :
    ∃ j f, Json.read? s = some j ∧ Refusal.ofJson? j = some f ∧ f.code = 409 ∧ f.reason = "AlreadyExists" := by
  simp only [RequestError.isAlreadyExists, Refusal.ofAnswer, Bool.and_eq_true, beq_iff_eq] at h
  split at h
  · rename_i f hf
    obtain ⟨j, hj, hf⟩ := Option.bind_eq_some_iff.mp hf
    exact ⟨j, f, hj, hf, h⟩
  · exact absurd (show "Failed to parse error data" = "AlreadyExists" from h.2) (by decide)

theorem isAlreadyExists_iff (h : r.read decode = .error e) : e.isAlreadyExists = true ↔ r.SaysExists := by
  constructor
  · intro he
    obtain ⟨f, rfl⟩ : ∃ f, e = .refused f := by cases e <;> first | exact ⟨_, rfl⟩ | cases he
    cases r with
    | failure text => cases h
    | answer status body =>
      simp only [read, text] at h
      rcases hs : Text.decode body with _ | s <;> simp only [hs] at h
      · cases h
      · by_cases hstatus : Http.isFailure status
        · simp only [hstatus, if_true, Except.error.injEq, RequestError.refused.injEq] at h
          obtain ⟨j, f', hj, hf', hcode⟩ := ofAnswer_exists (h ▸ he)
          exact ⟨status, body, s, j, f', rfl, hstatus, hs, hj, hf', hcode⟩
        · simp only [hstatus, Bool.false_eq_true, if_false] at h
          split at h <;> cases h
  · rintro ⟨status, body, s, j, f, rfl, hstatus, hs, hj, hf, hcode, hreason⟩
    simp only [read, text, hs, hstatus, if_true, Refusal.ofAnswer, hj, Option.bind_some, hf,
      Except.error.injEq] at h
    rw [← h]
    simp [RequestError.isAlreadyExists, hcode, hreason]

theorem not_saysExists_of_ok {a : α} (h : r.read decode = .ok a) : ¬r.SaysExists := by
  rintro ⟨status, body, s, j, f, rfl, hstatus, hs, -⟩
  simp [read, text, hs, hstatus] at h

end Reply

/-! ## The ways of a creation -/

variable {K : Type} [Resource K]

theorem Collection.createRequest_ok {c : Collection K} {obj : K} {q : Request} (h : c.createRequest obj = .ok q) :
    q.method = .post ∧ q.path = Http.Target.pathOf c.path ∧ q.body = some (Resource.toJson obj) := by
  obtain ⟨hmethod, hpath⟩ := build_ok h
  refine ⟨hmethod, by rw [hpath, Http.Target.pathOf_concat], ?_⟩
  unfold createRequest build at h
  split at h
  · cases h
  · cases h
    rfl

/-- The request that puts the object into its collection. -/
structure Posts (c : Collection K) (obj : K) (x : Exchange) : Prop where
  request : c.createRequest obj = .ok x.request
  method : x.request.method = .post
  path : x.request.path = Http.Target.pathOf c.path
  body : x.request.body = some (Resource.toJson obj)

theorem posts_of_request {c : Collection K} {obj : K} {x : Exchange} (h : c.createRequest obj = .ok x.request) :
    Posts c obj x :=
  have ⟨hmethod, hpath, hbody⟩ := Collection.createRequest_ok h
  ⟨h, hmethod, hpath, hbody⟩

/-- The request for the object of a name. -/
structure Gets (c : Collection K) (name : String) (x : Exchange) : Prop where
  request : c.getRequest name = .ok x.request
  method : x.request.method = .get
  path : x.request.path = c.objectPath name

theorem gets_of_request {c : Collection K} {name : String} {x : Exchange} (h : c.getRequest name = .ok x.request) :
    Gets c name x :=
  ⟨h, (Collection.getRequest_ok h).1, (Collection.getRequest_ok h).2⟩

/-- The ways of a creation: what is asked, and the result. -/
inductive Creation (c : Collection K) (obj : K) : List Exchange → Except ProbeError K → Prop
  | unnamed : (Resource.metadata obj).name = none →
      Creation c obj [] (.error (.precondition ((Resource.kind K).name ++ " has no name")))
  | unsent {name : String} {e : RequestError} :
      (Resource.metadata obj).name = some name → c.createRequest obj = .error e →
      Creation c obj [] (.error (.create (Resource.kind K).name name e))
  | created {name : String} {x : Exchange} {made : K} :
      (Resource.metadata obj).name = some name → Posts c obj x → x.reply.read Resource.ofJson? = .ok made →
      Creation c obj [x] (.ok made)
  | refused {name : String} {x : Exchange} {e : RequestError} :
      (Resource.metadata obj).name = some name → Posts c obj x →
      x.reply.read (Resource.ofJson? (K := K)) = .error e → ¬x.reply.SaysExists →
      Creation c obj [x] (.error (.create (Resource.kind K).name name e))
  /-- There is one of the name already, but the name does not make an address. -/
  | unaskable {name : String} {x : Exchange} {e : RequestError} :
      (Resource.metadata obj).name = some name → Posts c obj x → x.reply.SaysExists →
      c.getRequest name = .error e →
      Creation c obj [x] (.error (.create (Resource.kind K).name name e))
  | stored {name : String} {x y : Exchange} {there : K} :
      (Resource.metadata obj).name = some name → Posts c obj x → x.reply.SaysExists → Gets c name y →
      y.reply.read Resource.ofJson? = .ok there →
      Creation c obj [x, y] (.ok there)
  | lost {name : String} {x y : Exchange} {e : RequestError} :
      (Resource.metadata obj).name = some name → Posts c obj x → x.reply.SaysExists → Gets c name y →
      y.reply.read (Resource.ofJson? (K := K)) = .error e →
      Creation c obj [x, y] (.error (.create (Resource.kind K).name name e))

/-! ## Every run -/

/-- What follows once the name is known to be taken. -/
def getStored (c : Collection K) (name : String) : Session K := do
  match ← Session.get c name with
  | .ok stored => return stored
  | .error e => throw (.create (Resource.kind K).name name e)

theorem createOrGet_of_named (c : Collection K) {obj : K} {name : String}
    (hname : (Resource.metadata obj).name = some name) :
    createOrGet c obj = (do
      match ← Session.create c obj with
      | .ok created =>
        Session.info ("Created " ++ (Resource.kind K).name ++ " " ++ name)
        return created
      | .error e =>
        if e.isAlreadyExists then
          Session.debug ((Resource.kind K).name ++ " " ++ name ++ " already exists, fetching it")
          getStored c name
        else throw (.create (Resource.kind K).name name e)) := by
  simp only [createOrGet, hname]
  rfl

theorem getStored_creation (c : Collection K) {obj : K} {name : String} {x : Exchange}
    (hname : (Resource.metadata obj).name = some name) (hposts : Posts c obj x) (htold : x.reply.SaysExists)
    (w : World) :
    let run := getStored c name w
    ∃ ys, Creation c obj (x :: ys) run.1 ∧ w.Asks ys run.2 := by
  intro run
  simp only [run, getStored, Session.run_bind, Session.get]
  rcases hget : c.getRequest name with e | q
  · exact ⟨[], .unaskable hname hposts htold hget, .nothing w⟩
  · have hgets : Gets c name (w.asked q) := gets_of_request hget
    simp only [Session.send_ok]
    rcases hread : (w.asked q).reply.read (Resource.ofJson? (K := K)) with e | there
    · exact ⟨[w.asked q], .lost hname hposts htold hgets hread, .once w q⟩
    · exact ⟨[w.asked q], .stored hname hposts htold hgets hread, .once w q⟩

/-- Every run is a creation, and its requests are all it leaves behind apart from the log. -/
theorem createOrGet_creation (c : Collection K) (obj : K) (w : World) :
    let run := createOrGet c obj w
    ∃ xs, Creation c obj xs run.1 ∧ w.Asks xs run.2 := by
  intro run
  rcases hname : (Resource.metadata obj).name with _ | name
  · have hrun : run = (.error (.precondition ((Resource.kind K).name ++ " has no name")), w) := by
      simp [run, createOrGet, hname]
    exact ⟨[], by rw [hrun]; exact .unnamed hname, by rw [hrun]; exact .nothing w⟩
  simp only [run, createOrGet_of_named c hname, Session.run_bind, Session.create]
  rcases hpost : c.createRequest obj with e | q
  · obtain ⟨why, rfl⟩ := Collection.build_error hpost
    exact ⟨[], .unsent hname hpost, .nothing w⟩
  have hposts : Posts c obj (w.asked q) := posts_of_request hpost
  simp only [Session.send_ok]
  rcases hread : (w.asked q).reply.read (Resource.ofJson? (K := K)) with e | made
  · by_cases hexists : e.isAlreadyExists
    · have htold := (Reply.isAlreadyExists_iff hread).mp hexists
      obtain ⟨ys, hys, hasks⟩ := getStored_creation c hname hposts htold
        ((w.ask q).log .debug ((Resource.kind K).name ++ " " ++ name ++ " already exists, fetching it"))
      simp only [hexists, if_true, Session.run_bind, Session.run_debug]
      exact ⟨w.asked q :: ys, hys, ((World.Asks.once w q).log _ _).trans hasks⟩
    · have htold : ¬(w.asked q).reply.SaysExists := fun h => hexists ((Reply.isAlreadyExists_iff hread).mpr h)
      simp only [hexists, Bool.false_eq_true, if_false, Session.run_throw]
      exact ⟨[w.asked q], .refused hname hposts hread htold, .once w q⟩
  · exact ⟨[w.asked q], .created hname hposts hread, (World.Asks.once w q).log _ _⟩

namespace Creation

variable {c : Collection K} {obj : K} {xs : List Exchange} {r : Except ProbeError K}

theorem methods (h : Creation c obj xs r) : xs.map (·.request.method) <+: [.post, .get] := by
  cases h with
  | unnamed => simp
  | unsent => simp
  | created _ hx => simp [hx.method]
  | refused _ hx => simp [hx.method]
  | unaskable _ hx => simp [hx.method]
  | stored _ hx _ hy => simp [hx.method, hy.method]
  | lost _ hx _ hy => simp [hx.method, hy.method]

/-- The object is asked for just when it is said to be there, if its name makes an address. -/
theorem asks_for_stored_iff (h : Creation c obj xs r) : (∃ y, xs[1]? = some y) ↔
    ∃ x name q, xs[0]? = some x ∧ x.reply.SaysExists ∧ (Resource.metadata obj).name = some name ∧
      c.getRequest name = .ok q := by
  cases h with
  | unnamed => simp
  | unsent => simp
  | created _ _ hread => simp [Reply.not_saysExists_of_ok hread]
  | refused _ _ _ hnot => simp [hnot]
  | unaskable hname _ _ hget => simp [hname, hget]
  | stored hname _ htold hy => simp [hname, htold, hy.request]
  | lost hname _ htold hy => simp [hname, htold, hy.request]

end Creation

/-- A creation posts the object at most once, then asks for it at most once, and that exactly on being told that it
is there; its result is the object it got or a failure to create, caused by the last request. -/
theorem createOrGet_asks_at_most_twice (c : Collection K) (obj : K) (w : World) :
    let run := createOrGet c obj w
    ∃ xs, w.Asks xs run.2 ∧ xs.map (·.request.method) <+: [.post, .get] ∧
      ((∃ y, xs[1]? = some y) ↔ ∃ x name q, xs[0]? = some x ∧ x.reply.SaysExists ∧
        (Resource.metadata obj).name = some name ∧ c.getRequest name = .ok q) ∧
      Creation c obj xs run.1 := by
  obtain ⟨xs, hcreation, hasks⟩ := createOrGet_creation c obj w
  exact ⟨xs, hasks, hcreation.methods, hcreation.asks_for_stored_iff, hcreation⟩

end ClusterProbe
