/-
  ClusterProbe.Kubeconfig — client configurations: which cluster to talk to, and in
  which namespace by default.

  A configuration lists clusters, users and contexts by name and may name the context
  to use; of several entries with one name the first counts. A context names its
  cluster, and that cluster needs an address. The user may be unknown. Two
  configurations become one (`merge?`) unless they tell different versions of
  themselves.
-/

import ClusterProbe.Credentials
import ClusterProbe.Http.Uri
import ClusterProbe.Pki.Bundle

namespace ClusterProbe

structure KubeCluster where
  server : Option String
  /-- Certificates of authorities. -/
  authority : Material
  /-- The name that the server's certificate is asked for. -/
  serverName : Option String
  proxy : Option String
  deriving DecidableEq, Repr

structure KubeContext where
  cluster : String
  user : Option String
  «namespace» : Option String
  deriving DecidableEq, Repr

/-- An entry of a list; its content may be missing. -/
structure NamedEntry (α : Type) where
  name : String
  content : Option α
  deriving DecidableEq, Repr

structure Kubeconfig where
  kind : Option String := none
  apiVersion : Option String := none
  clusters : List (NamedEntry KubeCluster) := []
  users : List (NamedEntry Credentials) := []
  contexts : List (NamedEntry KubeContext) := []
  currentContext : Option String := none
  deriving DecidableEq, Repr

namespace NamedEntry

variable {α : Type}

/-- The content of the first entry of the name. -/
def find? (es : List (NamedEntry α)) (name : String) : Option α :=
  (List.find? (·.name == name) es).bind (·.content)

def read {σ : Type} [Yaml.Source σ] (k : String) (content : σ → Yaml.Reading α) (x : σ) :
    Yaml.Reading (NamedEntry α) := do
  let ms ← Yaml.members ["name", k] x
  return ⟨← Yaml.required Yaml.Source.text "name" ms, ← Yaml.optional content k ms⟩

def map {β : Type} (f : α → β) (e : NamedEntry α) : NamedEntry β := ⟨e.name, e.content.map f⟩

end NamedEntry

/-! ## Reading -/

section

variable {σ : Type} [Yaml.Source σ]

/-- Extensions have a name and hold anything. -/
def checkExtension (x : σ) : Yaml.Reading Unit := do
  let ms ← Yaml.members ["name", "extension"] x
  let _ ← Yaml.required Yaml.Source.text "name" ms
  Yaml.required Yaml.Source.checkJson "extension" ms

def checkExtensions (ms : List (String × σ)) : Yaml.Reading Unit := do
  let _ ← Yaml.optional (Yaml.list checkExtension) "extensions" ms

def KubeCluster.read (x : σ) : Yaml.Reading KubeCluster := do
  let ms ← Yaml.members ["server", "insecure-skip-tls-verify", "certificate-authority",
    "certificate-authority-data", "proxy-url", "disable-compression", "tls-server-name", "extensions"] x
  let text (k : String) := Yaml.optional Yaml.Source.text k ms
  let _ ← Yaml.optional Yaml.Source.truth "insecure-skip-tls-verify" ms
  let _ ← Yaml.optional Yaml.Source.truth "disable-compression" ms
  checkExtensions ms
  return {
    server := ← text "server"
    authority := ⟨← text "certificate-authority-data", ← text "certificate-authority"⟩
    serverName := ← text "tls-server-name"
    proxy := ← text "proxy-url" }

/-- Takes the paths of files to start in a directory. -/
def KubeCluster.under (directory : String) (c : KubeCluster) : KubeCluster :=
  { c with authority := c.authority.under directory }

def KubeContext.read (x : σ) : Yaml.Reading KubeContext := do
  let ms ← Yaml.members ["cluster", "user", "namespace", "extensions"] x
  checkExtensions ms
  return {
    cluster := ← Yaml.required Yaml.Source.text "cluster" ms
    user := ← Yaml.optional Yaml.Source.text "user" ms
    «namespace» := ← Yaml.optional Yaml.Source.text "namespace" ms }

def checkPreferences (x : σ) : Yaml.Reading Unit := do
  let ms ← Yaml.members ["colors", "extensions"] x
  let _ ← Yaml.optional Yaml.Source.truth "colors" ms
  checkExtensions ms

end

namespace Kubeconfig

def names : List String :=
  ["preferences", "clusters", "users", "contexts", "current-context", "extensions", "kind", "apiVersion"]

def read {σ : Type} [Yaml.Source σ] (x : σ) : Yaml.Reading Kubeconfig := do
  let ms ← Yaml.members names x
  let text (k : String) := Yaml.optional Yaml.Source.text k ms
  let _ ← Yaml.optional checkPreferences "preferences" ms
  checkExtensions ms
  return {
    kind := ← text "kind"
    apiVersion := ← text "apiVersion"
    clusters := (← Yaml.optional (Yaml.list (NamedEntry.read "cluster" KubeCluster.read)) "clusters" ms).getD []
    users := (← Yaml.optional (Yaml.list (NamedEntry.read "user" Credentials.read)) "users" ms).getD []
    contexts := (← Yaml.optional (Yaml.list (NamedEntry.read "context" KubeContext.read)) "contexts" ms).getD []
    currentContext := ← text "current-context" }

/-- Aliases that may be followed for each part of a document. -/
def aliasesPerPart : Nat := 100

def run {α : Type} (d : Yaml.Document) (r : Yaml.Reading α) : Option α :=
  (r.run (aliasesPerPart * d.root.size)).map (·.1)

/-- The configuration that a text of one document describes. -/
def ofText? (text : String) : Option Kubeconfig :=
  match Yaml.Document.ofText? text.toList with
  | some [d] => run d (read (⟨d, d.root, Yaml.maxDepth⟩ : Yaml.Place))
  | _ => none

/-- Takes the paths of files to start in a directory. -/
def under (directory : String) (c : Kubeconfig) : Kubeconfig :=
  { c with
    clusters := c.clusters.map (·.map (·.under directory))
    users := c.users.map (·.map (·.under directory)) }

/-! ## Several documents -/

/-- Nothing speaks against the two being the same. -/
def agree (a b : Option String) : Bool := a.isNone || b.isNone || a == b

/-- Entries and choices of the first configuration go before those of the second. -/
def merge? (a b : Kubeconfig) : Option Kubeconfig :=
  if agree a.kind b.kind && agree a.apiVersion b.apiVersion then some {
    kind := a.kind <|> b.kind
    apiVersion := a.apiVersion <|> b.apiVersion
    clusters := a.clusters ++ b.clusters
    users := a.users ++ b.users
    contexts := a.contexts ++ b.contexts
    currentContext := a.currentContext <|> b.currentContext }
  else none

def ofDocument? (d : Yaml.Document) : Option Kubeconfig :=
  run d do read (← Yaml.Value.ofDocument d)

/-- The configuration that the documents of a text describe together. -/
def ofDocuments? (text : String) : Option Kubeconfig := do
  let cs ← (← Yaml.Document.ofText? text.toList).mapM ofDocument?
  cs.foldlM merge? {}

end Kubeconfig

/-! ## The current context -/

/-- Why a configuration leads to no cluster. -/
inductive KubeconfigFault where
  | noCurrentContext
  | noContext (name : String)
  | noCluster (name : String)
  | noServer
  | badServer (f : Http.UriFault)
  | unreadableAuthority
  | badAuthority (f : Pki.BundleFault)
  | badProxy (f : Http.UriFault)
  deriving DecidableEq, Repr

namespace KubeconfigFault

def message : KubeconfigFault → String
  | noCurrentContext => "failed to determine current context"
  | noContext name => "failed to load current context: " ++ name
  | noCluster name => "failed to load the cluster of context: " ++ name
  | noServer => "cluster url is missing on selected cluster"
  | badServer f => "failed to parse cluster url: " ++ f.message
  | unreadableAuthority => "failed to load certificate authority"
  | badAuthority f => "failed to parse PEM-encoded certificates: " ++ f.message
  | badProxy f => "failed to parse proxy url: " ++ f.message

end KubeconfigFault

namespace KubeCluster

/-- The text with certificates of authorities, if there is to be one. -/
def bundle (c : KubeCluster) (m : Machine) : Except KubeconfigFault (Option (List UInt8)) :=
  if !c.authority.isGiven then .ok none
  else match c.authority.load? m with
    | some text => .ok (some text)
    | none => .error .unreadableAuthority

/-- The certificates of the authorities. -/
def authorities (c : KubeCluster) (m : Machine) : Except KubeconfigFault (List (List UInt8)) := do
  match ← c.bundle m with
  | some text => (Pki.certificatesOf text).mapError .badAuthority
  | none => return []

end KubeCluster

/-- What the current context of a configuration leads to. -/
structure Endpoint where
  defaultNamespace : String
  proxy : Option Http.Uri
  /-- Certificates of authorities. -/
  authorities : List (List UInt8)
  serverName : Option String
  credentials : Credentials
  deriving DecidableEq, Repr

namespace Kubeconfig

def needsCluster (c : Credentials) : Bool := (c.command.map (·.needsCluster)).getD false

def endpoint (c : Kubeconfig) (m : Machine) : Except KubeconfigFault Endpoint := do
  let some name := c.currentContext | throw .noCurrentContext
  let some context := NamedEntry.find? c.contexts name | throw (.noContext name)
  let some cluster := NamedEntry.find? c.clusters context.cluster | throw (.noCluster context.cluster)
  let credentials := (context.user.bind (NamedEntry.find? c.users)).getD {}
  if needsCluster credentials then discard (cluster.bundle m)
  let some server := cluster.server | throw .noServer
  let _ ← (Http.Uri.parse server).mapError .badServer
  let authorities ← cluster.authorities m
  let proxy ← (cluster.proxy.filter (· ≠ "")).mapM fun p => (Http.Uri.parse p).mapError .badProxy
  return {
    defaultNamespace := context.namespace.getD "default"
    proxy
    authorities
    serverName := cluster.serverName
    credentials }

end Kubeconfig

end ClusterProbe
