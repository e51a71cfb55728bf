/-
  ClusterProbe.Session.Collection — typed requests to the API server.

  A collection holds the objects of one kind, in one namespace or cluster-wide. A
  request that names nothing, or whose address is not well formed, is never sent. An
  answer is read in this order: it must be UTF-8; a failure status makes it a refusal,
  told by the answer if it describes one and by the status if not; otherwise it must
  describe the object asked for.
-/

import ClusterProbe.Error
import ClusterProbe.Http.Form
import ClusterProbe.Http.Status
import ClusterProbe.Json.Reader
import ClusterProbe.Resource.Workload
import ClusterProbe.Session.Attempt

namespace ClusterProbe

/-! ## Reading answers -/

namespace Refusal

def ofJson? (j : Json) : Option Refusal := do
  let ms ← Json.members? ["status", "message", "reason", "code"] j
  return {
    status := ← Json.required Json.string? "status" ms
    message := ← Json.withDefault "" Json.string? "message" ms
    reason := ← Json.withDefault "" Json.string? "reason" ms
    code := (← Json.required (Json.int? 0 65535) "code" ms).toNat }

/-- The refusal in an answer of a failure status. -/
def ofAnswer (status : Nat) (text : String) : Refusal :=
  match (Json.read? text).bind ofJson? with
  | some r => r
  | none => ⟨Http.statusText status, Text.quote text, "Failed to parse error data", status⟩

end Refusal

namespace Reply

/-- The text of an answer that is not a failure. -/
def text : Reply → Except RequestError String
  | failure text => .error (.transport text)
  | answer status body =>
    match Text.decode body with
    | .error f => .error (.notUtf8 f)
    | .ok s => if Http.isFailure status then .error (.refused (.ofAnswer status s)) else .ok s

def read {α : Type} (decode : Json → Option α) (r : Reply) : Except RequestError α :=
  match r.text with
  | .error e => .error e
  | .ok s =>
    match (Json.read? s).bind decode with
    | some a => .ok a
    | none => .error .unreadable

end Reply

/-! ## Lists and deletions -/

namespace ListAnswer

/-- What a list says of itself. -/
def metadata? (j : Json) : Option Unit := do
  let ms ← Json.openMembers? j
  let _ ← Json.lastOf Json.int64? "remainingItemCount" ms
  let _ ← Json.lastOf Json.string? "continue" ms
  let _ ← Json.lastOf Json.string? "resourceVersion" ms
  let _ ← Json.lastOf Json.string? "selfLink" ms

/-- Members that are neither the list's metadata nor its items are kept as they are. -/
def others (ms : List (String × Json)) : Json :=
  .object (ms.filter fun m => m.1 != "metadata" && m.1 != "items")

/-- The items of a list, which null leaves without any; they cannot be left out. -/
def items? {α : Type} (decode : Json → Option α) (j : Json) : Option (List α) := do
  let ms ← Json.objectMembers? ["metadata", "items"] j
  if !(others ms).isPlain then none
  Json.withDefault () metadata? "metadata" ms
  let items ← Json.required (Json.nullable (Json.list? decode)) "items" ms
  return items.getD []

end ListAnswer

namespace DeleteAnswer

def cause? (j : Json) : Option Unit := do
  let ms ← Json.members? ["reason", "message", "field"] j
  let _ ← Json.withDefault "" Json.string? "reason" ms
  let _ ← Json.withDefault "" Json.string? "message" ms
  let _ ← Json.withDefault "" Json.string? "field" ms

def details? (j : Json) : Option Unit := do
  let ms ← Json.members? ["name", "group", "kind", "uid", "causes", "retryAfterSeconds"] j
  let _ ← Json.withDefault "" Json.string? "name" ms
  let _ ← Json.withDefault "" Json.string? "group" ms
  let _ ← Json.withDefault "" Json.string? "kind" ms
  let _ ← Json.withDefault "" Json.string? "uid" ms
  let _ ← Json.withDefault [] (Json.list? cause?) "causes" ms
  let _ ← Json.withDefault 0 (Json.int? 0 4294967295) "retryAfterSeconds" ms

/-- How the deletion went: a word, or an object with that name and nothing under it. -/
def outcome? : Json → Option Unit
  | .string s | .object [(s, .null)] => if s = "Success" ∨ s = "Failure" then some () else none
  | _ => none

/-- A report on the deletion, in place of the object. -/
def status? (j : Json) : Option Unit := do
  let ms ← Json.members? ["status", "code", "message", "reason", "details"] j
  let _ ← Json.optional outcome? "status" ms
  let _ ← Json.withDefault 0 (Json.int? 0 65535) "code" ms
  let _ ← Json.withDefault "" Json.string? "message" ms
  let _ ← Json.withDefault "" Json.string? "reason" ms
  let _ ← Json.optional details? "details" ms

/-- The kind an answer claims; the last one of several. -/
def claimedKind? : Json → Option String
  | .object ms => ((Json.named "kind" ms).getLast?.map (·.2)).bind Json.string?
  | _ => none

/-- A deletion is answered by a report or by the object that is going. -/
def accepted? {α : Type} (decode : Json → Option α) (j : Json) : Option Unit :=
  if !j.isPlain then none
  else if claimedKind? j = some "Status" then status? j
  else (decode j).map fun _ => ()

end DeleteAnswer

/-! ## Collections -/

/-- Where objects of type `K` are kept: in one namespace, or in none. -/
structure Collection (K : Type) where
  ns : Option String
  deriving DecidableEq, Repr

namespace Collection

variable {K : Type} [Resource K]

def clusterWide : Collection K := ⟨none⟩

def within (ns : String) : Collection K := ⟨some ns⟩

def path (c : Collection K) : String := (Resource.kind K).collection c.ns

/-- A request to an address, which is the path with its query; a name may hold signs
that end the one or the other. -/
def build (method : Method) (target : String) (body : Option Json) : Except RequestError Request :=
  match Http.Target.parse target with
  | .error f => .error (.unsendable (.noTarget f))
  | .ok t => .ok { method := method, path := t.path, query := (t.query.map Http.Form.decode).getD [], body := body }

def getRequest (c : Collection K) (name : String) : Except RequestError Request :=
  if name = "" then .error (.unsendable .emptyName) else build .get (c.path ++ "/" ++ name) none

def deleteRequest (c : Collection K) (name : String) : Except RequestError Request :=
  if name = "" then .error (.unsendable .emptyName)
  else build .delete (c.path ++ "/" ++ name ++ "?") (some (.object []))

def createRequest (c : Collection K) (obj : K) : Except RequestError Request :=
  build .post (c.path ++ "?") (some (Resource.toJson obj))

def listRequest (c : Collection K) (selector : String) : Except RequestError Request :=
  build .get (c.path ++ "?" ++ Http.Form.encode [("labelSelector", selector)]) none

/-- Asks for an object by name. -/
def fetch (c : Collection K) (name : String) : Attempt (Except RequestError K) :=
  match c.getRequest name with
  | .error e => .done (.error e)
  | .ok q => .request q fun r => .done (r.read Resource.ofJson?)

end Collection

end ClusterProbe
