/-
  ClusterProbe.Session.World — the surroundings of a run: a clock, an API server, what lies
  beyond the cluster, and a history of everything that happened.

  The server is a script. A route answers the requests of one method and path with
  its responses in order, the last of them for ever; what has no route is not found.
  A response is chosen when the request arrives, and reaches the client `delay` ticks
  later. The clock moves only when something waits, and no wait is longer than thirty
  years: then it is over, however long it was meant to be.

  Of the runtime, of name resolution and of the HTTP client no more is known than that
  they keep to their word. The runtime cuts off what it is told to when it is told to
  (`Timer`); beyond the longest wait it may be early. Names resolve, and HTTP requests
  end, in whatever way and after whatever time (`Script`), but a request does not
  outlast its patience (`Visit`).
-/

import ClusterProbe.Duration
import ClusterProbe.Http.Url
import ClusterProbe.Json.Printer
import ClusterProbe.Text.Utf8

namespace ClusterProbe

/-! ## Requests and answers -/

inductive Method where
  | get
  | post
  | delete
  deriving DecidableEq, Repr

namespace Method

def text : Method → String
  | get => "GET"
  | post => "POST"
  | delete => "DELETE"

end Method

structure Request where
  method : Method
  path : String
  query : List (String × String) := []
  body : Option Json := none
  deriving Repr

inductive Reply where
  | answer (status : Nat) (body : List UInt8)
  /-- The connection failed; there is no answer. -/
  | failure (text : String)
  deriving DecidableEq, Repr

structure Response where
  reply : Reply
  delay : Nat
  deriving DecidableEq, Repr

/-! ## The scripted server -/

structure Route where
  method : Method
  path : String
  responses : List Response
  deriving DecidableEq, Repr

structure Server where
  routes : List Route
  deriving DecidableEq, Repr

namespace Route

def serves (r : Route) (q : Request) : Bool := r.method == q.method && r.path == q.path && !r.responses.isEmpty

/-- The next response and the script after it. -/
def next (r : Route) (otherwise : Response) : Response × Route :=
  match r.responses with
  | [] => (otherwise, r)
  | [x] => (x, r)
  | x :: rest => (x, { r with responses := rest })

end Route

namespace Server

/-- A route behind the others; one of the same method and path takes its responses
behind its own. -/
def add (r : Route) : List Route → List Route
  | [] => [r]
  | s :: rest =>
    if s.method = r.method ∧ s.path = r.path then
      { s with responses := s.responses ++ r.responses } :: rest
    else s :: add r rest

def ofRoutes (rs : List Route) : Server := ⟨rs.foldl (fun done r => add r done) []⟩

/-- The answer to a request that no route serves. -/
def notFound (path : String) : Response :=
  let body := Json.object
    [("apiVersion", .string "v1"), ("code", Json.int 404), ("kind", .string "Status"),
     ("message", .string ("resource \"" ++ path ++ "\" not found")),
     ("reason", .string "NotFound"), ("status", .string "Failure")]
  ⟨.answer 404 (Text.utf8 body.text), 0⟩

/-- The response of the first route that serves the request, and the routes after it. -/
def respondFrom (q : Request) : List Route → Response × List Route
  | [] => (notFound q.path, [])
  | r :: rest =>
    if r.serves q then
      let (x, r) := r.next (notFound q.path)
      (x, r :: rest)
    else
      let (x, rest) := respondFrom q rest
      (x, r :: rest)

def respond (s : Server) (q : Request) : Response × Server :=
  let (x, rs) := respondFrom q s.routes
  (x, ⟨rs⟩)

/-- How many responses are yet to come before every route repeats itself. -/
def unread (s : Server) : Nat := s.routes.foldr (fun r n => r.responses.length + n) 0

end Server

/-! ## The runtime's timer -/

/-- Thirty years, the longest wait. -/
def World.longestWait : Nat := 946080000000

/-- How long the runtime lets something run that it is to cut off after so many ticks. -/
structure Timer where
  given : Nat → Nat
  given_le : ∀ ticks, given ticks ≤ ticks
  /-- Nothing is cut off early, unless it has had the longest wait. -/
  le_given : ∀ ticks, min ticks World.longestWait ≤ given ticks
  mono : ∀ {ticks ticks'}, ticks ≤ ticks' → given ticks ≤ given ticks'

namespace Timer

/-- Whatever lasts longer than the longest wait is cut off then. -/
def capped : Timer where
  given ticks := min ticks World.longestWait
  given_le _ := Nat.min_le_left _ _
  le_given _ := Nat.le_refl _
  mono h := by omega

variable (timer : Timer) {ticks : Nat}

theorem given_of_le (h : ticks ≤ World.longestWait) : timer.given ticks = ticks := by
  have hle := timer.given_le ticks
  have hge := timer.le_given ticks
  omega

@[simp] theorem given_zero : timer.given 0 = 0 := Nat.le_zero.mp (timer.given_le 0)

theorem given_pos (h : 0 < ticks) : 0 < timer.given ticks := by
  have hge := timer.le_given ticks
  simp only [World.longestWait] at hge
  omega

/-- What is cut off early has had the longest wait. -/
theorem longestWait_le_given (h : timer.given ticks < ticks) : World.longestWait ≤ timer.given ticks := by
  have hge := timer.le_given ticks
  omega

end Timer

/-! ## Beyond the cluster -/

/-- What comes one after the other; the last of it repeats. -/
structure Script (α : Type) where
  first : α
  rest : List α := []

namespace Script

variable {α : Type}

def next (s : Script α) : Script α :=
  match s.rest with
  | [] => s
  | x :: rest => ⟨x, rest⟩

def length (s : Script α) : Nat := s.rest.length + 1

end Script

/-- Something that is there after a while. -/
structure Delayed (α : Type) where
  delay : Nat
  result : α
  deriving DecidableEq, Repr

/-- What a name resolves to. -/
inductive Lookup where
  | addresses (found : List String)
  | failure (text : String)
  deriving DecidableEq, Repr

/-- What comes of looking up a host and a port. -/
abbrev Resolver := String → Nat → Delayed Lookup

/-- What an HTTP client makes of a request. It follows redirects by itself: this is the
response it comes to in the end, which may be another URL's. -/
inductive HttpReply where
  | response (source : Http.Url) (code : Nat)
  | failure (text : String)
  deriving DecidableEq, Repr

/-- What comes of a GET request to a URL, sent with this much patience. -/
structure Visit where
  outcome : Http.Url → Duration → Delayed HttpReply
  delay_le : ∀ url patience, (outcome url patience).delay ≤ patience.ticks

namespace Visit

def atOnce (reply : Http.Url → HttpReply) : Visit := ⟨fun url _ => ⟨0, reply url⟩, fun _ _ => Nat.zero_le _⟩

end Visit

/-! ## History -/

inductive Level where
  | debug
  | info
  deriving DecidableEq, Repr

namespace Level

def text : Level → String
  | debug => "DEBUG"
  | info => "INFO"

end Level

inductive Event where
  | log (level : Level) (text : String)
  /-- A request that reached the server at this time, and the response it drew. -/
  | exchange (time : Nat) (request : Request) (response : Response)
  | lookup (time : Nat) (host : String) (port : Nat) (found : Delayed Lookup)
  | probe (time : Nat) (url : Http.Url) (patience : Duration) (reply : Delayed HttpReply)
  /-- An attempt of a poll began. -/
  | attempt (time : Nat) (what : String)
  deriving Repr

namespace Event

def request? : Event → Option Request
  | exchange _ q _ => some q
  | _ => none

def line? : Event → Option (Level × String)
  | log l t => some (l, t)
  | _ => none

def attempt? : Event → Option Nat
  | attempt t _ => some t
  | _ => none

end Event

structure World where
  clock : Nat
  server : Server
  timer : Timer
  /-- The lookups to come. -/
  resolver : Script Resolver
  /-- An HTTP client can be made, or it says why not. -/
  client : Except String Unit
  /-- The requests to come of an HTTP client. -/
  visits : Script Visit
  /-- The oldest event first. -/
  history : List Event

namespace World

def record (w : World) (e : Event) : World := { w with history := w.history ++ [e] }

def log (w : World) (level : Level) (text : String) : World := w.record (.log level text)

/-- Waits; the clock never goes back. -/
def advanceTo (w : World) (t : Nat) : World := { w with clock := max w.clock t }

/-- Lets time pass. -/
def pass (w : World) (ticks : Nat) : World := { w with clock := w.clock + ticks }

/-- Waits so long, but no longer than the longest wait. -/
def advance (w : World) (ticks : Nat) : World := w.pass (min ticks longestWait)

/-- Sends a request and records it. The response is still on its way. -/
def exchange (w : World) (q : Request) : Response × World :=
  let (x, s) := w.server.respond q
  (x, { w with server := s }.record (.exchange w.clock q x))

/-- Asks for the addresses of a host. -/
def lookup (w : World) (host : String) (port : Nat) : Delayed Lookup × World :=
  let x := w.resolver.first host port
  (x, { w with resolver := w.resolver.next }.record (.lookup w.clock host port x))

/-- Sends a GET request by the HTTP client. -/
def probe (w : World) (url : Http.Url) (patience : Duration) : Delayed HttpReply × World :=
  let x := w.visits.first.outcome url patience
  (x, { w with visits := w.visits.next }.record (.probe w.clock url patience x))

/-- How many answers are yet to come before everything repeats itself. -/
def unread (w : World) : Nat := w.server.unread + w.resolver.length + w.visits.length

def requests (w : World) : List Request := w.history.filterMap Event.request?

def lines (w : World) : List (Level × String) := w.history.filterMap Event.line?

/-- When the attempts of polls began. -/
def attempts (w : World) : List Nat := w.history.filterMap Event.attempt?

end World

end ClusterProbe
