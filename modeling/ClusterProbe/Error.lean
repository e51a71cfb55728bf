/-
  ClusterProbe.Error — why a request, or a whole check, did not succeed.

  A request fails because the server refused it (`refused`, with the code the server
  gave in its answer, which need not be the answer's status), because it could not be
  sent or carried, or because its answer could not be read. Codes and reasons decide
  how a refusal is taken: code 404 means the object is not there, 409 with the reason
  `AlreadyExists` that it already is, and 400 or 422 that asking again is no use. Who
  looks whether an object is there goes by the reason `NotFound` alone, whatever the
  code (`isAbsent`): an answer from something that is no API server proves nothing.
-/

import ClusterProbe.Duration
import ClusterProbe.Http.Uri
import ClusterProbe.Text.Quoted
import ClusterProbe.Text.Utf8

namespace ClusterProbe

/-- What a server says when it refuses a request. -/
structure Refusal where
  status : String
  message : String
  reason : String
  code : Nat
  deriving DecidableEq, Repr

inductive Unsendable where
  | emptyName
  /-- There is no such address. -/
  | noTarget (f : Http.UriFault)
  deriving DecidableEq, Repr

inductive RequestError where
  | refused (r : Refusal)
  | transport (text : String)
  /-- The answer is text, but does not describe what was asked for. -/
  | unreadable
  | notUtf8 (f : Text.Utf8Fault)
  | unsendable (why : Unsendable)
  deriving DecidableEq, Repr

namespace Refusal

/-- The four members of the refusal, texts quoted. -/
def fields (r : Refusal) : String :=
  "ErrorResponse \x7b status: " ++ Text.quote r.status ++ ", message: " ++ Text.quote r.message ++
    ", reason: " ++ Text.quote r.reason ++ ", code: " ++ toString r.code ++ " \x7d"

end Refusal

namespace Unsendable

def message : Unsendable → String
  | emptyName => "failed to validate request: A non-empty name is required"
  | noTarget f => "failed to build request: " ++ f.message

end Unsendable

namespace RequestError

def message : RequestError → String
  | refused r => "ApiError: " ++ r.message ++ ": " ++ r.reason ++ " (" ++ r.fields ++ ")"
  | transport text => "ServiceError: " ++ text
  | unreadable => "Error deserializing response: the text does not describe the object asked for"
  | notUtf8 f => "UTF-8 Error: " ++ f.message
  | unsendable why => "Failed to build request: " ++ why.message

/-- The code of a refusal. -/
def code? : RequestError → Option Nat
  | refused r => some r.code
  | _ => none

def isNotFound (e : RequestError) : Bool := e.code? == some 404

def isAbsent : RequestError → Bool
  | refused r => r.reason == "NotFound"
  | _ => false

def isAlreadyExists : RequestError → Bool
  | refused r => r.code == 409 && r.reason == "AlreadyExists"
  | _ => false

/-- The server holds the request itself to be wrong. -/
def isMalformed (e : RequestError) : Bool := e.code? == some 400 || e.code? == some 422

end RequestError

inductive ProbeError where
  | request (e : RequestError)
  | kubeconfig (problem : String)
  | timeout (what : String) (budget : Duration) (attempts : UInt32) (lastObserved : String)
  | fetch (what : String) (e : RequestError)
  | create (kind name : String) (e : RequestError)
  | precondition (problem : String)
  | notReady (problem : String)
  | http (problem : String)
  deriving DecidableEq, Repr

namespace ProbeError

def message : ProbeError → String
  | request e => "Kubernetes API error: " ++ e.message
  | kubeconfig problem => "Failed to load kubeconfig: " ++ problem
  | timeout what budget attempts lastObserved =>
    "Timed out after " ++ budget.text ++ " (" ++ toString attempts ++ " attempts) waiting for " ++ what ++
      ", last observed: " ++ lastObserved
  | fetch what e => "Failed to fetch " ++ what ++ ": " ++ e.message
  | create kind name e => "Failed to create " ++ kind ++ " " ++ name ++ ": " ++ e.message
  | precondition problem => "Precondition failed: " ++ problem
  | notReady problem => "Not ready: " ++ problem
  | http problem => "HTTP client error: " ++ problem

/-- The failed request behind the error, if it was one. -/
def source? : ProbeError → Option RequestError
  | request e => some e
  | fetch _ e => some e
  | create _ _ e => some e
  | _ => none

end ProbeError

end ClusterProbe
