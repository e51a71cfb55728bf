/-
  ClusterProbe.Session.Lifecycle — creating, awaiting and deleting one object.

  - `createOrGet` creates an object, or fetches the one already stored under its name;
    it asks at most twice and never waits.
  - `pollObject` fetches an object until it passes; a refusal that holds the request
    itself to be wrong ends the poll, everything else only prolongs it.
  - `deleteAndConfirm` finds an object, deletes it once, and waits until its name
    leads nowhere or to another object, one with another uid.
-/

import ClusterProbe.Session.Collection
import ClusterProbe.Session.Poll

namespace ClusterProbe

variable {K : Type} [Resource K]

namespace Session

/-- Sends a request outside any poll and waits for the answer as long as it takes. -/
def send {α : Type} (q : Except RequestError Request) (read : Reply → Except RequestError α) :
    Session (Except RequestError α) := fun w =>
  match q with
  | .error e => (.ok (.error e), w)
  | .ok q =>
    let (x, w) := w.exchange q
    (.ok (read x.reply), w.advance x.delay)

def get (c : Collection K) (name : String) : Session (Except RequestError K) :=
  send (c.getRequest name) (·.read Resource.ofJson?)

def create (c : Collection K) (obj : K) : Session (Except RequestError K) :=
  send (c.createRequest obj) (·.read Resource.ofJson?)

def delete (c : Collection K) (name : String) : Session (Except RequestError Unit) :=
  send (c.deleteRequest name) (·.read (DeleteAnswer.accepted? (Resource.ofJson? (K := K))))

def list (c : Collection K) (selector : String) : Session (Except RequestError (List K)) :=
  send (c.listRequest selector) (·.read (ListAnswer.items? Resource.ofJson?))

/-- Polls; every answer still unread may change a check's mind. -/
def poll {α : Type} (what : String) (b : Budget) (check : Poll.Check α) : Session α := fun w =>
  pollUntilReady what b check w.unread w

end Session

/-- How an object of the kind is called in messages. -/
def describe (K : Type) [Resource K] (name : String) : String := (Resource.kind K).describe name

/-! ## Creating -/

def createOrGet (c : Collection K) (obj : K) : Session K := do
  let kind := (Resource.kind K).name
  match (Resource.metadata obj).name with
  | none => throw (.precondition (kind ++ " has no name"))
  | some name =>
    match ← Session.create c obj with
    | .ok created =>
      Session.info ("Created " ++ kind ++ " " ++ name)
      return created
    | .error e =>
      if e.isAlreadyExists then
        Session.debug (kind ++ " " ++ name ++ " already exists, fetching it")
        match ← Session.get c name with
        | .ok stored => return stored
        | .error e => throw (.create kind name e)
      else throw (.create kind name e)

/-! ## Awaiting -/

/-- What a fetched object, or the failure to fetch it, means for the poll. -/
def judge (label : String) (passes : K → Readiness Unit) :
    Except RequestError K → Except ProbeError (Readiness K)
  | .ok obj => .ok ((passes obj).map fun _ => obj)
  | .error e =>
    if e.isMalformed then .error (.fetch label e)
    else .ok (.pending ("failed to get " ++ label ++ ": " ++ e.message))

def pollObject (c : Collection K) (name : String) (b : Budget) (passes : K → Readiness Unit) : Session K :=
  let label := describe K name
  Session.poll label b fun _ => (c.fetch name).map (judge label passes)

/-- Waits until there is an object of the name. -/
def waitForObject (c : Collection K) (name : String) (b : Budget) : Session K :=
  pollObject c name b fun _ => .ready ()

/-! ## Deleting -/

/-- The answer shows that the object with this uid is gone. -/
def isGone (uid : String) : Except RequestError K → Bool
  | .ok obj => (Resource.metadata obj).uid != some uid
  | .error e => e.isAbsent

def judgeGone (label uid : String) (r : Except RequestError K) : Except ProbeError (Readiness Unit) :=
  if isGone uid r then .ok (.ready ())
  else match r with
    | .ok _ => .ok (.pending (label ++ " still exists"))
    | .error e => .ok (.pending ("failed to get " ++ label ++ ": " ++ e.message))

/-- Waits until the object with this uid is no longer found under the name. -/
def confirmGone (c : Collection K) (name uid : String) (b : Budget) : Session Unit :=
  let label := describe K name
  Session.poll (label ++ " to be deleted") b fun _ => (c.fetch name).map (judgeGone label uid)

def deleteAndConfirm (c : Collection K) (name : String) (find confirm : Budget) : Session Unit := do
  let label := describe K name
  let existing ← waitForObject c name find
  match (Resource.metadata existing).uid with
  | none => throw (.precondition (label ++ " has no uid"))
  | some uid =>
    match ← Session.delete c name with
    | .error e =>
      if e.isNotFound then Session.info (label ++ " was already gone")
      else throw (.request e)
    | .ok () =>
      Session.debug ("Delete request for " ++ label ++ " accepted")
      confirmGone c name uid confirm
      Session.info ("Deleted " ++ label)

end ClusterProbe
