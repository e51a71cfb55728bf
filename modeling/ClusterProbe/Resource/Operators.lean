/-
  ClusterProbe.Resource.Operators — operator subscriptions and the catalogs they
  install from.

  A catalog is ready when the last observed state of its connection is `READY`.
-/

import ClusterProbe.Readiness
import ClusterProbe.Resource.Kind

namespace ClusterProbe

/-! ## Subscriptions -/

structure SubscriptionSpec where
  /-- The package in the catalog. -/
  name : String
  channel : Option String
  source : String
  sourceNamespace : String
  installPlanApproval : Option String
  startingCsv : Option String
  deriving DecidableEq, Repr

structure SubscriptionStatus where
  installedCsv : Option String
  currentCsv : Option String
  state : Option String
  deriving DecidableEq, Repr

abbrev Subscription := Custom SubscriptionSpec SubscriptionStatus

namespace SubscriptionSpec

def toJson (s : SubscriptionSpec) : Json :=
  Json.record
    [Json.field "name" (.string s.name),
     Json.field? "channel" .string s.channel,
     Json.field "source" (.string s.source),
     Json.field "sourceNamespace" (.string s.sourceNamespace),
     Json.field? "installPlanApproval" .string s.installPlanApproval,
     Json.field? "startingCsv" .string s.startingCsv]

def ofJson? (j : Json) : Option SubscriptionSpec := do
  let ms ← Json.members?
    ["name", "channel", "source", "sourceNamespace", "installPlanApproval", "startingCsv"] j
  return {
    name := ← Json.withDefault "" Json.string? "name" ms
    channel := ← Json.optional Json.string? "channel" ms
    source := ← Json.withDefault "" Json.string? "source" ms
    sourceNamespace := ← Json.withDefault "" Json.string? "sourceNamespace" ms
    installPlanApproval := ← Json.optional Json.string? "installPlanApproval" ms
    startingCsv := ← Json.optional Json.string? "startingCsv" ms }

end SubscriptionSpec

namespace SubscriptionStatus

def toJson (s : SubscriptionStatus) : Json :=
  Json.record
    [Json.field? "installedCSV" .string s.installedCsv,
     Json.field? "currentCSV" .string s.currentCsv,
     Json.field? "state" .string s.state]

def ofJson? (j : Json) : Option SubscriptionStatus := do
  let ms ← Json.members? ["installedCSV", "currentCSV", "state"] j
  return {
    installedCsv := ← Json.optional Json.string? "installedCSV" ms
    currentCsv := ← Json.optional Json.string? "currentCSV" ms
    state := ← Json.optional Json.string? "state" ms }

end SubscriptionStatus

namespace Subscription

def kind : Kind := ⟨"operators.coreos.com", "v1alpha1", "Subscription", "subscriptions"⟩

def installedCsv? (s : Subscription) : Option String := s.status.bind (·.installedCsv)

end Subscription

instance : Resource Subscription where
  kind := Subscription.kind
  metadata := Custom.metadata
  toJson := Custom.toJson Subscription.kind SubscriptionSpec.toJson SubscriptionStatus.toJson
  ofJson? := Custom.ofJson? SubscriptionSpec.ofJson? SubscriptionStatus.ofJson?

/-! ## Catalogs -/

structure CatalogSpec where
  sourceType : String
  image : Option String
  displayName : Option String
  deriving DecidableEq, Repr

structure ConnectionState where
  address : Option String
  lastObservedState : String
  deriving DecidableEq, Repr

structure CatalogStatus where
  connectionState : Option ConnectionState
  deriving DecidableEq, Repr

abbrev CatalogSource := Custom CatalogSpec CatalogStatus

namespace CatalogSpec

def toJson (s : CatalogSpec) : Json :=
  Json.record
    [Json.field "sourceType" (.string s.sourceType),
     Json.field? "image" .string s.image,
     Json.field? "displayName" .string s.displayName]

def ofJson? (j : Json) : Option CatalogSpec := do
  let ms ← Json.members? ["sourceType", "image", "displayName"] j
  return {
    sourceType := ← Json.withDefault "" Json.string? "sourceType" ms
    image := ← Json.optional Json.string? "image" ms
    displayName := ← Json.optional Json.string? "displayName" ms }

end CatalogSpec

namespace ConnectionState

def toJson (s : ConnectionState) : Json :=
  Json.record
    [Json.field? "address" .string s.address,
     Json.field "lastObservedState" (.string s.lastObservedState)]

def ofJson? (j : Json) : Option ConnectionState := do
  let ms ← Json.members? ["address", "lastObservedState"] j
  return {
    address := ← Json.optional Json.string? "address" ms
    lastObservedState := ← Json.withDefault "" Json.string? "lastObservedState" ms }

end ConnectionState

namespace CatalogStatus

def toJson (s : CatalogStatus) : Json :=
  Json.record [Json.field? "connectionState" ConnectionState.toJson s.connectionState]

def ofJson? (j : Json) : Option CatalogStatus := do
  let ms ← Json.members? ["connectionState"] j
  return ⟨← Json.optional ConnectionState.ofJson? "connectionState" ms⟩

end CatalogStatus

namespace CatalogSource

def kind : Kind := ⟨"operators.coreos.com", "v1alpha1", "CatalogSource", "catalogsources"⟩

def lastObservedState? (c : CatalogSource) : Option String :=
  (c.status.bind (·.connectionState)).map (·.lastObservedState)

/-- The state of a catalog that can be installed from. -/
def readyState : String := "READY"

def ready (c : CatalogSource) : Readiness Unit :=
  match c.lastObservedState? with
  | some s => if s = readyState then .ready () else .pending ("last observed state is " ++ s)
  | none => .pending "could not determine last observed state"

end CatalogSource

instance : Resource CatalogSource where
  kind := CatalogSource.kind
  metadata := Custom.metadata
  toJson := Custom.toJson CatalogSource.kind CatalogSpec.toJson CatalogStatus.toJson
  ofJson? := Custom.ofJson? CatalogSpec.ofJson? CatalogStatus.ofJson?

end ClusterProbe
