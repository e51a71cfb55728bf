/-
  ClusterProbe.Check.Reach — whether a host is reached through a gateway, from outside
  the cluster.

  The check takes the path of a client: the gateway's DNS record is published, the
  host resolves, unless it is an address, and an HTTP request is answered `200 OK`.
  The host is not looked at before the record is published.
-/

import ClusterProbe.Check.Await
import ClusterProbe.Http.Status
import ClusterProbe.Http.Url

namespace ClusterProbe

/-- Budgets of the three phases, and the patience of one HTTP request. -/
structure Patience where
  dnsRecord : Budget := .dnsRecordPublished
  resolve : Budget := .hostResolves
  http : Budget := .httpAnswers
  request : Duration := Budget.httpRequest
  deriving DecidableEq, Repr

def judgeLookup (host : String) : Lookup → Except ProbeError (Readiness String)
  | .addresses (a :: _) => .ok (.ready a)
  | .addresses [] => .ok (.pending (host ++ " resolved to no addresses"))
  | .failure text => .ok (.pending ("failed to resolve " ++ host ++ ": " ++ text))

def awaitHost (host : String) (port : Nat) (b : Budget) : Session String :=
  Session.poll (host ++ " to resolve") b fun _ => .lookup host port fun r => .done (judgeLookup host r)

def judgeAnswer : HttpReply → Except ProbeError (Readiness Unit)
  | .response _ code => if code = 200 then .ok (.ready ()) else .ok (.pending ("got status " ++ Http.statusText code))
  | .failure text => .ok (.pending ("request failed: " ++ text))

/-- An HTTP client can be made. -/
def requireClient : Session Unit := fun w => (w.client.mapError .http, w)

def awaitAnswer (url : Http.Url) (b : Budget) (patience : Duration) : Session Unit := do
  requireClient
  Session.poll (url.text ++ " to answer") b fun _ => .probe url patience fun r => .done (judgeAnswer r)

/-- The host of the URL can be connected to: it resolves, or is an address. -/
def awaitConnectable (hostname : String) (url : Http.Url) (b : Budget) : Session Unit :=
  match url.host with
  | .name host => do
    let address ← awaitHost host (url.port.getD 80) b
    Session.info ("Resolved " ++ host ++ " to " ++ address)
  | _ => Session.debug (hostname ++ " is an IP address, skipping resolution")

def requireUrl (hostname : String) : Session Http.Url :=
  match Http.Url.ofHostname hostname with
  | .ok url => return url
  | .error f => throw (.precondition ("invalid hostname " ++ hostname ++ ": " ++ f.message))

def checkReachableWithin (hostname : String) (gateway : Gateway) (p : Patience) : Session Unit :=
  match gateway.recordName with
  | .error e => throw e
  | .ok (ns, name) => do
    let _ ← awaitDnsRecordWithin ns name p.dnsRecord
    let url ← requireUrl hostname
    awaitConnectable hostname url p.resolve
    awaitAnswer url p.http p.request
    Session.info ("Got " ++ Http.statusText 200 ++ " from " ++ url.text)

def checkReachable (hostname : String) (gateway : Gateway) : Session Unit :=
  checkReachableWithin hostname gateway {}

end ClusterProbe
