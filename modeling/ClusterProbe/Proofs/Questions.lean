/-
  ClusterProbe.Proofs.Questions — polls that ask one question outside.

  A question is asked again in every attempt, and the script of the surroundings answers
  it in its own order. An answer that comes too late is not heard, whatever it says. So a
  poll for an answer goes on until the first one in time that has what is looked for, or
  until its time is up (`Question.Search`).

  - `Question.AskedBy.poll_search`: it does so for every question whose attempts ask it
    once, at most (`AsksOnce`). Its two cases are where a host is (`awaitHost_search`) and
    whether it answers (`awaitAnswer_search`).
-/

import ClusterProbe.Check.Reach
import ClusterProbe.Proofs.Contacts
import ClusterProbe.Proofs.Ending
import ClusterProbe.Proofs.Limits

namespace ClusterProbe

namespace Budget

variable (b : Budget) (timer : Timer) (start : Nat)

/-- What was asked for at `t` is there a while later, before a poll that began at `start` stops waiting. -/
def InTime (t delay : Nat) : Prop := t < start + b.timeout.ticks ∧ delay ≤ timer.given (start + b.timeout.ticks - t)

/-- A poll that began at `start` may run out of time at this time: it is up, or the last attempt was cut off early,
which no attempt is that has not had the longest wait. -/
def IsOver (time : Nat) : Prop :=
  start + b.timeout.ticks ≤ time ∨
    ∃ begun, begun + World.longestWait ≤ time ∧ time = begun + timer.given (start + b.timeout.ticks - begun)

variable {b timer start}

theorem inTime_iff {t delay : Nat} : b.InTime timer start t delay ↔
    t < t + timer.given (start + b.timeout.ticks - t) ∧ t + delay ≤ t + timer.given (start + b.timeout.ticks - t) := by
  have hgiven : 0 < timer.given (start + b.timeout.ticks - t) ↔ t < start + b.timeout.ticks := by
    constructor
    · intro hpos
      have := timer.given_le (start + b.timeout.ticks - t)
      omega
    · intro htime
      exact timer.given_pos (by omega)
  rw [InTime, ← hgiven]
  omega

end Budget

/-- A poll whose attempts do not fail runs out of time when that is over. -/
theorem Poll.isOver_of_error {α : Type} {what : String} {b : Budget} (hb : 0 < b.interval.ticks) {check : Check α}
    {w : World} (hsafe : ∀ n v e, (look what b check w.clock n v).1 ≠ some (.error e)) {e : ProbeError}
    (h : (Session.poll what b check w).1 = .error e) :
    b.IsOver w.timer w.clock (Session.poll what b check w).2.clock := by
  obtain ⟨-, ⟨starts, begun, -, -, -, -, hfail⟩, -⟩ := poll_within_limits what b hb check w.unread w
  cases hfail e h with
  | raised _ hlook => exact absurd (congrArg Prod.fst hlook) (hsafe _ _ _)
  | expired m hover => exact .inl hover
  | cut m hlong htime => exact .inr ⟨begun, hlong, htime⟩

/-! ## Asking once -/

variable {ρ α β : Type}

/-- An attempt that asks once, at most, and ends in its judgement of the answer: what it leaves and how it ends. It
does not hear an answer that is not there by its deadline, and none at all if it has no time to begin with. -/
inductive AsksOnce (w : World) (deadline : Nat) (asks : Delayed ρ → Event) (x : Delayed ρ) (judge : ρ → α) :
    Option α × World → Prop
  | unasked {w' : World} : w.Makes [] w' → AsksOnce w deadline asks x judge (none, w')
  | unheard {w' : World} : w.Makes [asks x] w' → ¬(w.clock < deadline ∧ w.clock + x.delay ≤ deadline) →
      AsksOnce w deadline asks x judge (none, w')
  | heard {w' : World} : w.Makes [asks x] w' → w.clock < deadline ∧ w.clock + x.delay ≤ deadline →
      w'.clock = w.clock + x.delay → AsksOnce w deadline asks x judge (some (judge x.result), w')

namespace AsksOnce

variable {w : World} {deadline : Nat} {asks : Delayed ρ → Event} {x : Delayed ρ} {judge : ρ → α}

/-- What begins with time left hears what is there in time. -/
theorem inTime {w' : World} (hasked : w.Makes [asks x] w') (hclock : w'.clock = w.clock) (hleft : ¬deadline ≤ w.clock) :
    AsksOnce w deadline asks x judge
      (Attempt.inTime deadline x.delay ((Attempt.done (judge x.result)).run deadline) w') := by
  unfold Attempt.inTime
  rw [hclock]
  split
  · rename_i htime
    exact .heard (hasked.pass _) ⟨Nat.lt_of_not_le hleft, htime⟩ (congrArg (· + x.delay) hclock)
  · rename_i hlate
    exact .unheard (hasked.advanceTo _) fun h => hlate h.2

/-- The beginning of an attempt is no contact. -/
theorem of_record {e : Event} (he : e.isContact = false) {r : Option α × World}
    (h : AsksOnce (w.record e) deadline asks x judge r) : AsksOnce w deadline asks x judge r := by
  have hbegun : w.Makes [] (w.record e) := (World.Makes.nothing w).record he
  cases h with
  | unasked hmakes => exact .unasked (hbegun.trans hmakes)
  | unheard hmakes hlate => exact .unheard (hbegun.trans hmakes) hlate
  | heard hmakes htime hclock => exact .heard (hbegun.trans hmakes) htime hclock

end AsksOnce

theorem Attempt.lookup_asksOnce (host : String) (port : Nat) (judge : Lookup → α) (deadline : Nat) (w : World) :
    AsksOnce w deadline (.lookup w.clock host port) (w.resolver.first host port) judge
      ((Attempt.lookup host port fun r => .done (judge r)).run deadline w) := by
  simp only [run]
  split
  · rename_i hlate
    exact .unheard (World.Makes.lookup w host port) fun h => absurd h.1 (Nat.not_lt.mpr hlate)
  · rename_i hleft
    exact .inTime (World.Makes.lookup w host port) rfl hleft

theorem Attempt.probe_asksOnce (url : Http.Url) (patience : Duration) (judge : HttpReply → α) (deadline : Nat)
    (w : World) : AsksOnce w deadline (.probe w.clock url patience) (w.visits.first.outcome url patience) judge
      ((Attempt.probe url patience fun r => .done (judge r)).run deadline w) := by
  simp only [run]
  split
  · exact .unasked (.nothing w)
  · rename_i hleft
    exact .inTime (World.Makes.probe w url patience) rfl hleft

/-! ## Questions -/

/-- What a poll asks outside. -/
structure Question (ρ β : Type) where
  what : String
  asks : Nat → Delayed ρ → Event
  /-- The answer after `k` others. -/
  answer : World → Nat → Delayed ρ
  finds : ρ → Option β

namespace Question

variable (q : Question ρ β) (b : Budget) (w : World) (start : Nat)

/-- The question was asked so often since `start` and not answered in time, or not as looked for. -/
def Vain (es : List Event) : Prop :=
  ∀ k e, es[k]? = some e → ∃ t, start ≤ t ∧ e = q.asks t (q.answer w k) ∧
    (b.InTime w.timer start t (q.answer w k).delay → q.finds (q.answer w k).result = none)

/-- How a poll goes that asks the question from `start` on: in vain until an answer in time has what is looked for,
or until the time is over. -/
inductive Search : List Event → Nat → Except ProbeError β → Prop
  | found {failed : List Event} {t : Nat} {a : β} : q.Vain b w start failed → start ≤ t →
      b.InTime w.timer start t (q.answer w failed.length).delay →
      q.finds (q.answer w failed.length).result = some a →
      Search (failed ++ [q.asks t (q.answer w failed.length)]) (t + (q.answer w failed.length).delay) (.ok a)
  | timeout {failed : List Event} {time : Nat} {n : UInt32} {m : String} : q.Vain b w start failed →
      (0 < b.interval.ticks → b.IsOver w.timer start time) →
      Search failed time (.error (.timeout q.what b.timeout n m))

variable {q b w start}

theorem Vain.nil : q.Vain b w start [] := fun _ _ h => nomatch h

theorem Vain.concat {es : List Event} (h : q.Vain b w start es) {t : Nat} (hstart : start ≤ t)
    (hnone : b.InTime w.timer start t (q.answer w es.length).delay → q.finds (q.answer w es.length).result = none) :
    q.Vain b w start (es ++ [q.asks t (q.answer w es.length)]) := by
  intro k e he
  rcases Nat.lt_or_ge k es.length with hk | hk
  · rw [List.getElem?_append_left hk] at he
    exact h k e he
  · rw [List.getElem?_append_right hk] at he
    obtain ⟨hfirst, rfl⟩ : k - es.length = 0 ∧ q.asks t (q.answer w es.length) = e := by
      simpa [List.getElem?_singleton] using he
    obtain rfl : k = es.length := by omega
    exact ⟨t, hstart, rfl, hnone⟩

theorem Vain.asked {es : List Event} (h : q.Vain b w start es) : ∀ e ∈ es, ∃ t x, e = q.asks t x := by
  intro e he
  obtain ⟨k, hk⟩ := List.getElem?_of_mem he
  obtain ⟨t, -, hasks, -⟩ := h k e hk
  exact ⟨t, _, hasks⟩

theorem Search.asked {es : List Event} {time : Nat} {r : Except ProbeError β} (h : q.Search b w start es time r) :
    ∀ e ∈ es, ∃ t x, e = q.asks t x := by
  cases h with
  | found hfailed =>
    rw [List.forall_mem_append, List.forall_mem_singleton]
    exact ⟨hfailed.asked, _, _, rfl⟩
  | timeout hfailed => exact hfailed.asked

/-- The attempts ask the question once, at most, and end in a judgement of its answer by what is looked for. -/
structure AskedBy (q : Question ρ β) (ask : Attempt (Except ProbeError (Readiness β)))
    (judge : ρ → Except ProbeError (Readiness β)) : Prop where
  asks : ∀ deadline w, AsksOnce w deadline (q.asks w.clock) (q.answer w 0) judge (ask.run deadline w)
  /-- Each time it is asked takes one answer. -/
  next : ∀ {w w' : World} {es : List Event}, w.Makes es w' → (∀ e ∈ es, ∃ t x, e = q.asks t x) →
    q.answer w' 0 = q.answer w es.length
  found : ∀ {r a}, q.finds r = some a → judge r = .ok (.ready a)
  notFound : ∀ {r}, q.finds r = none → ∃ m, judge r = .ok (.pending m)

namespace AskedBy

variable {q : Question ρ β} {ask : Attempt (Except ProbeError (Readiness β))}
  {judge : ρ → Except ProbeError (Readiness β)}

/-- So it is asked in each attempt of a poll. -/
theorem look_asksOnce (h : q.AskedBy ask judge) (b : Budget) (start n : Nat) (v : World) :
    AsksOnce v (v.clock + v.timer.given (start + b.timeout.ticks - v.clock)) (q.asks v.clock) (q.answer v 0) judge
      (Poll.look q.what b (fun _ => ask) start n v) := by
  have hbegun : v.Makes [] (v.record (.attempt v.clock q.what)) := (World.Makes.nothing v).record rfl
  have hv := h.asks (v.clock + v.timer.given (start + b.timeout.ticks - v.clock)) (v.record (.attempt v.clock q.what))
  rw [h.next hbegun (List.forall_mem_nil _)] at hv
  exact hv.of_record rfl

theorem look_ne_error (h : q.AskedBy ask judge) (b : Budget) (start n : Nat) (v : World) (e : ProbeError) :
    (Poll.look q.what b (fun _ => ask) start n v).1 ≠ some (.error e) := by
  intro he
  have hv := h.look_asksOnce b start n v
  generalize Poll.look q.what b (fun _ => ask) start n v = r at hv he
  cases hv with
  | unasked | unheard => cases he
  | heard =>
    rcases hfinds : q.finds (q.answer v 0).result with _ | a
    · obtain ⟨m, hm⟩ := h.notFound hfinds
      simp [hm] at he
    · simp [h.found hfinds] at he

/-- An attempt after others in vain is in vain too, or it finds what is looked for. It does not know whether the poll
will have run out of time. -/
theorem keeps (h : q.AskedBy ask judge) (b : Budget) (w : World) :
    Poll.Keeps q.what b (fun _ => ask) w.clock w (q.Vain b w w.clock) fun es time r =>
      (∀ e, r = .error e → 0 < b.interval.ticks → b.IsOver w.timer w.clock time) →
        q.Search b w w.clock es time r := by
  intro n es v hv hvain
  have hr := h.look_asksOnce b w.clock n v
  rw [hv.timer, h.next hv hvain.asked] at hr
  have htime : b.InTime w.timer w.clock v.clock (q.answer w es.length).delay ↔ _ := Budget.inTime_iff
  generalize Poll.look q.what b (fun _ => ask) w.clock n v = r at hr
  rcases hr with hmakes | ⟨hmakes, hlate⟩ | ⟨hmakes, hintime, hclock⟩
  · exact ⟨[], hmakes, by rwa [List.append_nil]⟩
  · exact ⟨_, hmakes, hvain.concat hv.clock fun hin => absurd (htime.mp hin) hlate⟩
  · refine ⟨_, hmakes, ?_⟩
    rcases hfinds : q.finds (q.answer w es.length).result with _ | a
    · obtain ⟨m, hm⟩ := h.notFound hfinds
      rw [hm]
      exact hvain.concat hv.clock fun _ => hfinds
    · rw [h.found hfinds]
      exact fun _ => hclock ▸ .found hvain hv.clock (htime.mpr hintime) hfinds

theorem poll_search (h : q.AskedBy ask judge) (b : Budget) (w : World) :
    let run := Session.poll q.what b (fun _ => ask) w
    ∃ es, w.Makes es run.2 ∧ q.Search b w w.clock es run.2.clock run.1 := by
  intro run
  obtain ⟨es, hmakes, hend⟩ :=
    (h.keeps b w).poll_makes (fun _ _ _ _ hvain hover => .timeout hvain (hover _ rfl)) .nil
  exact ⟨es, hmakes, hend fun e he hb => Poll.isOver_of_error hb (h.look_ne_error b w.clock) he⟩

end AskedBy

/-- A search depends on its surroundings by nothing but their timer and the answers to the question. -/
theorem Search.of_same_answers {q : Question ρ β} {w w' : World} (ht : w'.timer = w.timer)
    (hanswer : q.answer w' = q.answer w) {es : List Event} {time : Nat} {r : Except ProbeError β}
    (h : q.Search b w' start es time r) : q.Search b w start es time r := by
  have hvain : ∀ {es}, q.Vain b w' start es → q.Vain b w start es := by
    intro es hes
    simpa only [Vain, ht, hanswer] using hes
  cases h with
  | found hfailed hstart htime hfinds =>
    rw [hanswer] at htime hfinds ⊢
    exact .found (hvain hfailed) hstart (ht ▸ htime) hfinds
  | timeout hfailed hover => exact .timeout (hvain hfailed) (ht ▸ hover)

end Question

/-! ## Where a host is, and whether it answers -/

def Lookup.address? : Lookup → Option String
  | addresses (a :: _) => some a
  | addresses [] | failure _ => none

def HttpReply.success? : HttpReply → Option Unit
  | response _ code => if code = 200 then some () else none
  | failure _ => none

namespace Question

/-- What address a host has. -/
def host (host : String) (port : Nat) : Question Lookup String where
  what := host ++ " to resolve"
  asks t x := .lookup t host port x
  answer w k := w.resolver.nth k host port
  finds := Lookup.address?

/-- Whether a GET request to the URL succeeds. -/
def visit (url : Http.Url) (patience : Duration) : Question HttpReply Unit where
  what := url.text ++ " to answer"
  asks t x := .probe t url patience x
  answer w k := (w.visits.nth k).outcome url patience
  finds := HttpReply.success?

variable {w w' : World} {es : List Event}

theorem host_answer_of_makes {name : String} {port : Nat} (h : w.Makes es w') (k : Nat) :
    (host name port).answer w' k = (host name port).answer w (es.countP Event.isLookup + k) :=
  congrFun (congrFun (h.resolver k) _) _

theorem visit_answer_of_makes {url : Http.Url} {patience : Duration} (h : w.Makes es w') (k : Nat) :
    (visit url patience).answer w' k = (visit url patience).answer w (es.countP Event.isProbe + k) :=
  congrArg (Visit.outcome · url patience) (h.visits k)

theorem host_askedBy (name : String) (port : Nat) :
    (host name port).AskedBy (.lookup name port fun r => .done (judgeLookup name r)) (judgeLookup name) where
  asks := Attempt.lookup_asksOnce name port (judgeLookup name)
  next := by
    intro w v es hmakes hes
    have hcount : es.countP Event.isLookup = es.length := by
      rw [List.countP_eq_length]
      intro e he
      obtain ⟨t, x, rfl⟩ := hes e he
      rfl
    rw [host_answer_of_makes hmakes, hcount, Nat.add_zero]
  found := by
    rintro ((_ | ⟨a, rest⟩) | text) a' h <;> cases h
    rfl
  notFound := by
    rintro ((_ | ⟨a, rest⟩) | text) h
    · exact ⟨_, rfl⟩
    · cases h
    · exact ⟨_, rfl⟩

theorem visit_askedBy (url : Http.Url) (patience : Duration) :
    (visit url patience).AskedBy (.probe url patience fun r => .done (judgeAnswer r)) judgeAnswer where
  asks := Attempt.probe_asksOnce url patience judgeAnswer
  next := by
    intro w v es hmakes hes
    have hcount : es.countP Event.isProbe = es.length := by
      rw [List.countP_eq_length]
      intro e he
      obtain ⟨t, x, rfl⟩ := hes e he
      rfl
    rw [visit_answer_of_makes hmakes, hcount, Nat.add_zero]
  found := by
    rintro (⟨source, code⟩ | text) ⟨⟩ h
    · have hcode : code = 200 := by simpa [visit, HttpReply.success?] using h
      simp [judgeAnswer, hcode]
    · cases h
  notFound := by
    rintro (⟨source, code⟩ | text) h
    · have hcode : code ≠ 200 := by simpa [visit, HttpReply.success?] using h
      simp [judgeAnswer, hcode]
    · exact ⟨_, rfl⟩

theorem awaitHost_search (name : String) (port : Nat) (b : Budget) (w : World) :
    let run := awaitHost name port b w
    ∃ es, w.Makes es run.2 ∧ (host name port).Search b w w.clock es run.2.clock run.1 :=
  (host_askedBy name port).poll_search b w

theorem awaitAnswer_search (url : Http.Url) (b : Budget) (patience : Duration) {w : World} (h : w.client = .ok ()) :
    let run := awaitAnswer url b patience w
    ∃ es, w.Makes es run.2 ∧ (visit url patience).Search b w w.clock es run.2.clock run.1 := by
  have hclient : requireClient w = (.ok (), w) := by simp [requireClient, h, Except.mapError]
  rw [awaitAnswer, Session.run_bind, hclient]
  exact (visit_askedBy url patience).poll_search b w

theorem awaitAnswer_of_noClient (url : Http.Url) (b : Budget) (patience : Duration) {w : World} {text : String}
    (h : w.client = .error text) : awaitAnswer url b patience w = (.error (.http text), w) := by
  have hclient : requireClient w = (.error (.http text), w) := by simp [requireClient, h, Except.mapError]
  rw [awaitAnswer, Session.run_bind, hclient]

end Question

end ClusterProbe
