/-
  ClusterProbe.Proofs.Traffic — the requests of a run and the answers to them.

  A history only grows, and what a run asked the server is read off it: who asked
  what, when, and what came back (`World.exchanges`). Waiting, logging and starting an
  attempt leave no exchange behind; sending a request leaves one.

  - `answer_respond`: a server gives the responses of a route in order, the last one for
    ever, so that what it says to the same request sent again and again is known
    beforehand (`Server.answer`).
-/

import ClusterProbe.Session.Attempt

namespace ClusterProbe

/-- A request that reached the server, when it did so, and the response it drew. -/
structure Exchange where
  time : Nat
  request : Request
  response : Response

namespace Exchange

/-- When the response is with the client. -/
def arrival (x : Exchange) : Nat := x.time + min x.response.delay World.longestWait

def reply (x : Exchange) : Reply := x.response.reply

end Exchange

def Event.exchange? : Event → Option Exchange
  | .exchange t q x => some ⟨t, q, x⟩
  | _ => none

namespace World

def exchanges (w : World) : List Exchange := w.history.filterMap Event.exchange?

/-! ## What leaves no exchange behind, and what begins an attempt -/

@[simp] theorem exchanges_log (w : World) (l : Level) (s : String) : (w.log l s).exchanges = w.exchanges := by
  simp [exchanges, log, record, Event.exchange?]

@[simp] theorem exchanges_attempt (w : World) (t : Nat) (what : String) :
    (w.record (.attempt t what)).exchanges = w.exchanges := by
  simp [exchanges, record, Event.exchange?]

@[simp] theorem exchanges_pass (w : World) (t : Nat) : (w.pass t).exchanges = w.exchanges := rfl
@[simp] theorem exchanges_advance (w : World) (t : Nat) : (w.advance t).exchanges = w.exchanges := rfl
@[simp] theorem exchanges_advanceTo (w : World) (t : Nat) : (w.advanceTo t).exchanges = w.exchanges := rfl

@[simp] theorem clock_log (w : World) (l : Level) (s : String) : (w.log l s).clock = w.clock := rfl

@[simp] theorem attempts_log (w : World) (l : Level) (s : String) : (w.log l s).attempts = w.attempts := by
  simp [attempts, log, record, Event.attempt?]

@[simp] theorem attempts_advance (w : World) (t : Nat) : (w.advance t).attempts = w.attempts := rfl

theorem attempts_attempt (w : World) (t : Nat) (what : String) :
    (w.record (.attempt t what)).attempts = w.attempts ++ [t] := by
  simp [attempts, record, Event.attempt?]

theorem exchanges_exchange (w : World) (q : Request) :
    (w.exchange q).2.exchanges = w.exchanges ++ [⟨w.clock, q, (w.exchange q).1⟩] := by
  simp [exchanges, exchange, record, Event.exchange?]

end World

/-! ## Without the log -/

namespace World

/-- The world as it would be had nothing been logged. -/
def unlogged (w : World) : World := { w with history := w.history.filter (·.line?.isNone) }

@[simp] theorem unlogged_log (w : World) (l : Level) (s : String) : (w.log l s).unlogged = w.unlogged := by
  simp [unlogged, log, record, Event.line?]

theorem exchanges_unlogged (w : World) : w.unlogged.exchanges = w.exchanges := by
  simp only [unlogged, exchanges, List.filterMap_filter]
  congr
  funext e
  cases e <;> rfl

theorem attempts_unlogged (w : World) : w.unlogged.attempts = w.attempts := by
  simp only [unlogged, attempts, List.filterMap_filter]
  congr
  funext e
  cases e <;> rfl

end World

/-! ## Asking once -/

namespace World

/-- Sends a request and waits for the answer as long as it takes. -/
def ask (w : World) (q : Request) : World := (w.exchange q).2.advance (w.exchange q).1.delay

/-- The request that is sent now, with its answer. -/
def asked (w : World) (q : Request) : Exchange := ⟨w.clock, q, (w.exchange q).1⟩

@[simp] theorem asked_request (w : World) (q : Request) : (w.asked q).request = q := rfl
@[simp] theorem asked_log (w : World) (l : Level) (s : String) (q : Request) : (w.log l s).asked q = w.asked q := rfl

theorem exchanges_ask (w : World) (q : Request) : (w.ask q).exchanges = w.exchanges ++ [w.asked q] := by
  simp [ask, asked, exchanges_exchange]

theorem unlogged_ask (w : World) (q : Request) : (w.ask q).unlogged = w.unlogged.ask q := by
  simp [ask, unlogged, exchange, record, advance, pass, Event.line?]

end World

/-! ## Later worlds -/

namespace World

/-- A world before anything has happened, with nobody to talk to but a server. -/
def fresh (routes : List Route) : World where
  clock := 0
  server := ⟨routes⟩
  timer := .capped
  resolver := ⟨fun _ _ => ⟨0, .failure ""⟩, []⟩
  client := .ok ()
  visits := ⟨.atOnce fun _ => .failure "", []⟩
  history := []

/-- The same surroundings later: the server may have changed, and more has happened. -/
def later (w : World) (clock : Nat) (server : Server) (es : List Event) : World :=
  { w with clock := clock, server := server, history := w.history ++ es }

variable (w : World) (c : Nat) (s : Server) (es : List Event)

@[simp] theorem later_clock : (w.later c s es).clock = c := rfl
@[simp] theorem later_server : (w.later c s es).server = s := rfl
@[simp] theorem later_history : (w.later c s es).history = w.history ++ es := rfl

@[simp] theorem later_later (c' : Nat) (s' : Server) (es' : List Event) :
    (w.later c s es).later c' s' es' = w.later c' s' (es ++ es') := by
  simp [later]

@[simp] theorem later_here : w.later w.clock w.server [] = w := by
  simp [later]

theorem record_eq_later (e : Event) : w.record e = w.later w.clock w.server [e] := rfl

theorem log_eq_later (l : Level) (x : String) : w.log l x = w.later w.clock w.server [.log l x] := rfl

theorem pass_eq_later (ticks : Nat) : w.pass ticks = w.later (w.clock + ticks) w.server [] := by
  simp [pass, later]

theorem advance_eq_later (ticks : Nat) : w.advance ticks = w.later (w.clock + min ticks longestWait) w.server [] :=
  w.pass_eq_later _

theorem later_exchanges : (w.later c s es).exchanges = w.exchanges ++ es.filterMap Event.exchange? := by
  simp [exchanges]

theorem later_attempts : (w.later c s es).attempts = w.attempts ++ es.filterMap Event.attempt? := by
  simp [attempts]

theorem later_lines : (w.later c s es).lines = w.lines ++ es.filterMap Event.line? := by
  simp [lines]

end World

/-! ## A server's answers in order -/

namespace Route

/-- The response after `k` others; the last one repeats. -/
def response? (r : Route) (k : Nat) : Option Response := r.responses[k]?.or r.responses.getLast?

end Route

namespace Server

def answerFrom (q : Request) (k : Nat) (rs : List Route) : Response :=
  ((rs.find? (·.serves q)).bind (·.response? k)).getD (notFound q.path)

/-- The answer to a request that the server has already been sent `k` times. -/
def answer (s : Server) (q : Request) (k : Nat) : Response := answerFrom q k s.routes

theorem respondFrom_fst (q : Request) (rs : List Route) : (respondFrom q rs).1 = answerFrom q 0 rs := by
  induction rs with
  | nil => rfl
  | cons r rest ih =>
    by_cases h : r.serves q
    · obtain ⟨m, p, xs⟩ := r
      match xs with
      | [] => simp [Route.serves] at h
      | [x] => simp [respondFrom, h, Route.next, answerFrom, Route.response?]
      | x :: y :: xs => simp [respondFrom, h, Route.next, answerFrom, Route.response?]
    · simp only [respondFrom, h, answerFrom, List.find?_cons] at ih ⊢
      exact ih

theorem answerFrom_respondFrom (q : Request) (k : Nat) (rs : List Route) :
    answerFrom q k (respondFrom q rs).2 = answerFrom q (k + 1) rs := by
  induction rs with
  | nil => rfl
  | cons r rest ih =>
    by_cases h : r.serves q
    · obtain ⟨m, p, xs⟩ := r
      match xs with
      | [] => simp [Route.serves] at h
      | [x] =>
        have hr : (Route.mk m p [x]).response? k = (Route.mk m p [x]).response? (k + 1) := by
          cases k <;> simp [Route.response?]
        simp [respondFrom, h, Route.next, answerFrom, hr]
      | x :: y :: xs =>
        have h' : (Route.mk m p (y :: xs)).serves q = true := by simpa [Route.serves] using h
        simp [respondFrom, h, h', Route.next, answerFrom, Route.response?]
    · simp only [respondFrom, h, Bool.false_eq_true, if_false, answerFrom, List.find?_cons] at ih ⊢
      exact ih

theorem respond_fst (s : Server) (q : Request) : (s.respond q).1 = s.answer q 0 := respondFrom_fst q s.routes

/-- Having answered once, the server goes on with the next response. -/
theorem answer_respond (s : Server) (q : Request) (k : Nat) :
    (s.respond q).2.answer q k = s.answer q (k + 1) := answerFrom_respondFrom q k s.routes

/-- The server after it was sent the same request `k` times. -/
def after (s : Server) (q : Request) : Nat → Server
  | 0 => s
  | k + 1 => ((s.after q k).respond q).2

theorem answer_after (s : Server) (q : Request) (k j : Nat) : (s.after q k).answer q j = s.answer q (k + j) := by
  induction k generalizing j with
  | zero => simp [after]
  | succ k ih => rw [after, answer_respond, ih]; congr 1; omega

theorem respond_after (s : Server) (q : Request) (k : Nat) :
    (s.after q k).respond q = (s.answer q k, s.after q (k + 1)) :=
  Prod.ext (by rw [respond_fst, answer_after]; rfl) rfl

end Server

/-- A request to a server that was sent it `k` times before. -/
theorem World.exchange_eq_later {w : World} {s : Server} {q : Request} {k : Nat} (h : w.server = s.after q k) :
    w.exchange q =
      (s.answer q k, w.later w.clock (s.after q (k + 1)) [.exchange w.clock q (s.answer q k)]) := by
  simp [World.exchange, h, Server.respond_after, World.record, World.later]

end ClusterProbe
