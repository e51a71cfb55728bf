/-
  ClusterProbe.Proofs.WireForm — nothing of an object is lost on the wire.

  Every structure of the kinds that extend a cluster is lossless, from the innermost one
  out: fields that may be missing are left out and read as missing, lists and maps may
  have any length, and what stands for a default is written all the same, except for
  tags that are empty (`DnsZone`). Names and versions of the kind are written and not
  read.

  - `wire_form_loses_nothing`: each object comes back from its JSON, from the text of
    that and from the bytes of the text.
-/

import ClusterProbe.Proofs.EncodedText
import ClusterProbe.Proofs.Lossless
import ClusterProbe.Resource.ControlPlane
import ClusterProbe.Resource.DnsRecord
import ClusterProbe.Resource.HttpRoute
import ClusterProbe.Resource.Operators
import ClusterProbe.Session.Collection

namespace ClusterProbe

open Json (Lossless Labelled)

/-! ## Metadata and conditions -/

namespace Metadata

def fields (m : Metadata) : List (Option (String × Json)) :=
  [Json.field? "name" .string m.name, Json.field? "generateName" .string m.generateName,
   Json.field? "namespace" .string m.namespace, Json.field? "uid" .string m.uid,
   Json.field? "labels" (Json.ofDict .string) m.labels, Json.field? "annotations" (Json.ofDict .string) m.annotations,
   Json.field? "generation" Json.ofInt64 m.generation, Json.field? "resourceVersion" .string m.resourceVersion,
   Json.field? "finalizers" (Json.ofList .string) m.finalizers]

theorem toJson_eq (m : Metadata) : m.toJson = Json.record m.fields := rfl

theorem labelled (m : Metadata) : Labelled
    ["name", "generateName", "namespace", "uid", "labels", "annotations", "generation", "resourceVersion", "finalizers"]
    m.fields :=
  .field? <| .field? <| .field? <| .field? <| .field? <| .field? <| .field? <| .field? <| .field? .nil

/-- Metadata is an open structure; written, it has no name twice, and is read like a closed one. -/
instance : Lossless toJson ofJson? where
  reads m := by
    have hmembers : Json.openMembers? m.toJson = some (Json.members m.fields) := rfl
    have hlast {α : Type} (read : Json → Option α) (k : String) :=
      Json.lastOf_of_nodup (m.labelled.nodup_members (by decide)) read k
    simp only [ofJson?, unkept?, hmembers, Option.bind_eq_bind, Option.bind_some, hlast]
    simp [fields]
  exact m := by rw [toJson_eq, m.labelled.isExact_record]
  null := rfl

end Metadata

instance : Lossless Condition.toJson Condition.ofJson? :=
  .closed ["type", "status", "reason", "message", "lastTransitionTime", "observedGeneration"]
    (fun _ => rfl) (fun _ => rfl) (by decide)
    (fun _ => .field <| .field <| .field? <| .field? <| .field? <| .field? .nil) (fun _ => by simp)

instance : Lossless ConditionList.toJson ConditionList.ofJson? :=
  .closed ["conditions"] (fun _ => rfl) (fun _ => rfl) (by decide) (fun _ => .field .nil) (fun _ => by simp)

/-! ## Gateway classes and gateways -/

instance : Lossless GatewayClassSpec.toJson GatewayClassSpec.ofJson? :=
  .closed ["controllerName", "description"] (fun _ => rfl) (fun _ => rfl) (by decide)
    (fun _ => .field <| .field? .nil) (fun _ => by simp)

instance : Lossless RouteNamespaces.toJson RouteNamespaces.ofJson? :=
  .closed ["from"] (fun _ => rfl) (fun _ => rfl) (by decide) (fun _ => .field? .nil) (fun _ => by simp)

instance : Lossless AllowedRoutes.toJson AllowedRoutes.ofJson? :=
  .closed ["namespaces"] (fun _ => rfl) (fun _ => rfl) (by decide) (fun _ => .field? .nil) (fun _ => by simp)

instance : Lossless Listener.toJson Listener.ofJson? :=
  .closed ["name", "hostname", "port", "protocol", "allowedRoutes"] (fun _ => rfl) (fun _ => rfl) (by decide)
    (fun _ => .field <| .field? <| .field <| .field <| .field? .nil) (fun _ => by simp)

instance : Lossless GatewaySpec.toJson GatewaySpec.ofJson? :=
  .closed ["gatewayClassName", "listeners"] (fun _ => rfl) (fun _ => rfl) (by decide)
    (fun _ => .field <| .field .nil) (fun _ => by simp)

/-! ## Routes -/

instance : Lossless ParentReference.toJson ParentReference.ofJson? :=
  .closed ["group", "kind", "namespace", "name", "sectionName"] (fun _ => rfl) (fun _ => rfl) (by decide)
    (fun _ => .field? <| .field? <| .field? <| .field <| .field? .nil) (fun _ => by simp)

instance : Lossless BackendReference.toJson BackendReference.ofJson? :=
  .closed ["name", "port"] (fun _ => rfl) (fun _ => rfl) (by decide)
    (fun _ => .field <| .field? .nil) (fun _ => by simp)

instance : Lossless RouteRule.toJson RouteRule.ofJson? :=
  .closed ["backendRefs"] (fun _ => rfl) (fun _ => rfl) (by decide) (fun _ => .field .nil) (fun _ => by simp)

instance : Lossless HttpRouteSpec.toJson HttpRouteSpec.ofJson? :=
  .closed ["parentRefs", "hostnames", "rules"] (fun _ => rfl) (fun _ => rfl) (by decide)
    (fun _ => .field <| .field <| .field .nil) (fun _ => by simp)

instance : Lossless ParentStatus.toJson ParentStatus.ofJson? :=
  .closed ["parentRef", "controllerName", "conditions"] (fun _ => rfl) (fun _ => rfl) (by decide)
    (fun _ => .field <| .field <| .field .nil) (fun _ => by simp)

instance : Lossless HttpRouteStatus.toJson HttpRouteStatus.ofJson? :=
  .closed ["parents"] (fun _ => rfl) (fun _ => rfl) (by decide) (fun _ => .field .nil) (fun _ => by simp)

/-! ## Operators and control planes -/

instance : Lossless SubscriptionSpec.toJson SubscriptionSpec.ofJson? :=
  .closed ["name", "channel", "source", "sourceNamespace", "installPlanApproval", "startingCsv"]
    (fun _ => rfl) (fun _ => rfl) (by decide)
    (fun _ => .field <| .field? <| .field <| .field <| .field? <| .field? .nil) (fun _ => by simp)

instance : Lossless SubscriptionStatus.toJson SubscriptionStatus.ofJson? :=
  .closed ["installedCSV", "currentCSV", "state"] (fun _ => rfl) (fun _ => rfl) (by decide)
    (fun _ => .field? <| .field? <| .field? .nil) (fun _ => by simp)

instance : Lossless CatalogSpec.toJson CatalogSpec.ofJson? :=
  .closed ["sourceType", "image", "displayName"] (fun _ => rfl) (fun _ => rfl) (by decide)
    (fun _ => .field <| .field? <| .field? .nil) (fun _ => by simp)

instance : Lossless ConnectionState.toJson ConnectionState.ofJson? :=
  .closed ["address", "lastObservedState"] (fun _ => rfl) (fun _ => rfl) (by decide)
    (fun _ => .field? <| .field .nil) (fun _ => by simp)

instance : Lossless CatalogStatus.toJson CatalogStatus.ofJson? :=
  .closed ["connectionState"] (fun _ => rfl) (fun _ => rfl) (by decide) (fun _ => .field? .nil) (fun _ => by simp)

instance : Lossless ControlPlaneSpec.toJson ControlPlaneSpec.ofJson? :=
  .closed ["version", "mode"] (fun _ => rfl) (fun _ => rfl) (by decide)
    (fun _ => .field? <| .field? .nil) (fun _ => by simp)

instance : Lossless ComponentStates.toJson ComponentStates.ofJson? :=
  .closed ["components"] (fun _ => rfl) (fun _ => rfl) (by decide) (fun _ => .field? .nil) (fun _ => by simp)

instance : Lossless ControlPlaneStatus.toJson ControlPlaneStatus.ofJson? :=
  .closed ["readiness"] (fun _ => rfl) (fun _ => rfl) (by decide) (fun _ => .field .nil) (fun _ => by simp)

/-! ## DNS records -/

instance : Lossless DnsRecordSpec.toJson DnsRecordSpec.ofJson? :=
  .closed ["dnsName", "recordType", "targets", "recordTTL"] (fun _ => rfl) (fun _ => rfl) (by decide)
    (fun _ => .field <| .field <| .field <| .field .nil) (fun _ => by simp)

theorem Dict.eq_empty {α : Type} {d : Dict α} (h : d.isEmpty = true) : d = .empty :=
  Dict.ext (by simpa [Dict.isEmpty, Dict.empty] using h)

/-- Tags that are not written are empty, and those that are not there are taken for empty ones. -/
instance : Lossless DnsZone.toJson DnsZone.ofJson? :=
  .closed ["id", "tags"] (fun _ => rfl) (fun _ => rfl) (by decide) (fun _ => .field? <| .field? .nil) fun z => by
    have htags : (if z.tags.isEmpty = true then none else some z.tags).getD Dict.empty = z.tags := by
      split
      · rename_i hempty
        exact (Dict.eq_empty hempty).symm
      · rfl
    simp [htags]

instance : Lossless ZoneStatus.toJson ZoneStatus.ofJson? :=
  .closed ["dnsZone", "conditions"] (fun _ => rfl) (fun _ => rfl) (by decide)
    (fun _ => .field <| .field .nil) (fun _ => by simp)

instance : Lossless DnsRecordStatus.toJson DnsRecordStatus.ofJson? :=
  .closed ["zones", "observedGeneration"] (fun _ => rfl) (fun _ => rfl) (by decide)
    (fun _ => .field <| .field? .nil) (fun _ => by simp)

/-! ## Whole objects -/

section Objects

variable {Spec Status : Type} (kind : Kind) {spec : Spec → Json} {readSpec : Json → Option Spec}
  {status : Status → Json} {readStatus : Json → Option Status}

/-- What an object says of its kind is written before the rest and not read. -/
instance Custom.lossless [Lossless spec readSpec] [Lossless status readStatus] :
    Lossless (Custom.toJson kind spec status) (Custom.ofJson? readSpec readStatus) := by
  have hlabelled : ∀ c : Custom Spec Status, Labelled ["apiVersion", "kind", "metadata", "spec", "status"]
      [Json.field "apiVersion" (.string kind.apiVersion), Json.field "kind" (.string kind.name),
       Json.field "metadata" c.metadata.toJson, Json.field "spec" (spec c.spec), Json.field? "status" status c.status] :=
    fun c => .field <| .field <| .field <| .field <| .field? .nil
  refine ⟨fun c => ?_, fun c => (hlabelled c).isExact_record, rfl⟩
  have hmembers := (hlabelled c).members?_record (by decide) ["metadata", "spec", "status"]
  have hobject : Json.objectMembers? ["metadata", "spec", "status"] (Custom.toJson kind spec status c) = some _ := hmembers
  simp [Custom.ofJson?, hobject]

end Objects

/-- Every object of the kind comes back from its JSON, from the text of that, and from the bytes of the text in any
answer that is no failure. -/
def LosesNothing (K : Type) [Resource K] : Prop :=
  ∀ obj : K, Resource.ofJson? (Resource.toJson obj) = some obj ∧
    (Json.read? (Resource.toJson obj).text).bind Resource.ofJson? = some obj ∧
    ∀ status, Http.isFailure status = false →
      (Reply.answer status (Text.utf8 (Resource.toJson obj).text)).read Resource.ofJson? = .ok obj

theorem losesNothing_of_lossless {K : Type} [Resource K]
    (h : Lossless (Resource.toJson (K := K)) (Resource.ofJson? (K := K))) : LosesNothing K := by
  intro obj
  have htext : Json.read? (Resource.toJson obj).text = some (Resource.toJson obj) := Json.read?_text (h.exact obj)
  have hread : (Json.read? (Resource.toJson obj).text).bind Resource.ofJson? = some obj := by
    rw [htext, Option.bind_some, h.reads]
  refine ⟨h.reads obj, hread, fun status hstatus => ?_⟩
  simp [Reply.read, Reply.text, hstatus, hread]

/-- Nothing is lost of the objects that extend a cluster. -/
theorem wire_form_loses_nothing :
    LosesNothing GatewayClass ∧ LosesNothing Gateway ∧ LosesNothing HttpRoute ∧ LosesNothing Subscription ∧
      LosesNothing CatalogSource ∧ LosesNothing ControlPlane ∧ LosesNothing DnsRecord :=
  ⟨losesNothing_of_lossless (Custom.lossless GatewayClass.kind), losesNothing_of_lossless (Custom.lossless Gateway.kind),
    losesNothing_of_lossless (Custom.lossless HttpRoute.kind), losesNothing_of_lossless (Custom.lossless Subscription.kind),
    losesNothing_of_lossless (Custom.lossless CatalogSource.kind),
    losesNothing_of_lossless (Custom.lossless ControlPlane.kind), losesNothing_of_lossless (Custom.lossless DnsRecord.kind)⟩

end ClusterProbe
