/-
  ClusterProbe.Client — connecting to the cluster under test.

  A configuration is given as text, as a file, or is inferred from the surroundings;
  what goes wrong with an inferred one is told as a whole. A file given by name is one
  document in UTF-8, and paths in it start in the working directory. One that is found
  may be in UTF-16 as well, and hold several documents, which count together; paths in it
  start where it stands. No proxy can be used.
-/

import ClusterProbe.Http.ServerName
import ClusterProbe.Kubeconfig
import ClusterProbe.Pki.Identity
import ClusterProbe.Session.Poll
import ClusterProbe.Text.ByteOrder

namespace ClusterProbe

inductive ConfigSource where
  | file (path : String)
  /-- From the file that the surroundings name, if they name one. -/
  | inferred (path : Option String)
  deriving DecidableEq, Repr

/-- A connection to a cluster. -/
structure Client where
  defaultNamespace : String
  deriving DecidableEq, Repr

/-- Why no encrypted connection can be made. -/
inductive TlsFault where
  | authority (f : Pki.CertificateFault)
  | identity (f : Pki.IdentityFault)
  | serverName
  deriving DecidableEq, Repr

namespace TlsFault

def message (f : TlsFault) : String :=
  "rustls tls error: " ++ match f with
    | authority f => "failed to add a root certificate: " ++ f.message
    | identity f => f.message
    | serverName => "invalid server name: invalid dns name"

end TlsFault

/-- Why an endpoint cannot be connected to. -/
inductive ClientFault where
  | proxyNeeds (proxy : Http.Uri) (feature : String)
  | unknownProxy (proxy : Http.Uri)
  | credentials (f : CredentialFault)
  | tls (f : TlsFault)
  | badHeader
  deriving DecidableEq, Repr

namespace ClientFault

def message : ClientFault → String
  | proxyNeeds proxy feature =>
    "configured proxy " ++ proxy.text ++ " requires the disabled feature " ++ Text.quote feature
  | unknownProxy proxy => "configured proxy " ++ proxy.text ++ " uses an unsupported protocol"
  | credentials f => f.message
  | tls f => f.message
  | badHeader => "HttpError: failed to parse header value"

/-- A proxy, by its scheme. -/
def ofProxy (proxy : Http.Uri) : ClientFault :=
  match proxy.scheme with
  | some "socks5" => proxyNeeds proxy "kube/socks5"
  | some "http" => proxyNeeds proxy "kube/http-proxy"
  | _ => unknownProxy proxy

end ClientFault

namespace Endpoint

/-- Whether encrypted connections can be made. -/
def checkTls (e : Endpoint) (m : Machine) : Except TlsFault Unit := do
  e.authorities.forM fun bs => (Pki.Certificate.checkAuthority bs).mapError .authority
  match e.credentials.identity? m with
  | some text => (Pki.Identity.check text).mapError .identity
  | none => pure ()
  if !e.serverName.all Http.ServerName.isValid then throw .serverName

/-- A text that a header can hold. -/
def fitsHeader (s : String) : Bool :=
  s.toList.all fun c => c == '\t' || (0x20 ≤ c.toNat && c.toNat != 0x7F)

/-- Whether the endpoint can be connected to. -/
def check (e : Endpoint) (m : Machine) : Except ClientFault Unit := do
  match e.proxy with
  | some proxy => throw (.ofProxy proxy)
  | none => pure ()
  (e.credentials.check m).mapError .credentials
  (e.checkTls m).mapError .tls
  if !e.credentials.headers.all fitsHeader then throw .badHeader

end Endpoint

namespace Client

/-- A client for a configuration, if there is one, or why there is none. -/
def ofConfig (config : Option Kubeconfig) (m : Machine) : Except String Client := do
  let some config := config
    | throw "Failed to parse kubeconfig: the text is not a client configuration"
  let endpoint ← (config.endpoint m).mapError fun f => "Failed to create config: " ++ f.message
  (endpoint.check m).mapError fun f => "Failed to create client: " ++ f.message
  return ⟨endpoint.defaultNamespace⟩

def ofKubeconfig (text : String) (m : Machine) : Session Client :=
  match ofConfig (Kubeconfig.ofText? text) m with
  | .ok c => return c
  | .error problem => throw (.kubeconfig problem)

/-- What is said of surroundings that lead to no cluster. -/
def notInferred : ProbeError := .kubeconfig "Failed to infer config: there is no usable configuration"

/-- The directory that a file stands in: its path up to the last slash. -/
def directoryOf (path : String) : String :=
  String.ofList (path.toList.reverse.dropWhile (· != '/')).reverse

/-- The configuration that a file holds, with its paths starting where the file stands. -/
def found? (path : String) (m : Machine) : Option Kubeconfig := do
  let text ← Text.decodeMarked? (← (m.read path).toOption)
  return (← Kubeconfig.ofDocuments? text).under (directoryOf path)

def infer (path : Option String) (m : Machine) : Session Client :=
  match ofConfig (path.bind fun path => found? path m) m with
  | .ok c => return c
  | .error _ => throw notInferred

def create (source : ConfigSource) (m : Machine) : Session Client :=
  match source with
  | .file path =>
    match m.readText path with
    | .error f => throw (.kubeconfig ("Failed to read kubeconfig " ++ path ++ ": " ++ f.message))
    | .ok text => do
      Session.info ("Using kubeconfig " ++ path)
      ofKubeconfig text m
  | .inferred path => infer path m

end Client

end ClusterProbe
