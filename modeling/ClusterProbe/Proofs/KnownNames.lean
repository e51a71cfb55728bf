/-
  ClusterProbe.Proofs.KnownNames — decoding reads what it knows and nothing else.

  API servers send far more than these types declare. Of each structure of the seven
  kinds that extend a cluster the parts are listed, from the innermost one out: the names
  it knows and how the value under each may vary. Labels, tags and the like are maps, not
  structures, and must be the same.

  The names of metadata are all those with a fixed form, also the ones that no check asks
  for: what they hold is not kept, but it has to have that form. What an object says of
  its kind stands under unknown names.

  - `Custom.heeds`: the readers of an object, from those of its spec and its status.
  - `decoding_heeds_known_names`: whatever varies, the text is one of the kind as before
    or as before it is not, and the object is the same.
-/

import ClusterProbe.Proofs.Variation
import ClusterProbe.Proofs.WrittenText
import ClusterProbe.Resource.ControlPlane
import ClusterProbe.Resource.DnsRecord
import ClusterProbe.Resource.HttpRoute
import ClusterProbe.Resource.Operators

namespace ClusterProbe

open Json (Parts Variation Heeds Agrees fixed items)

/-! ## Conditions and metadata -/

namespace Condition

def parts : Parts := .plain ["type", "status", "reason", "message", "lastTransitionTime", "observedGeneration"]

theorem heeds : Heeds parts.variation ofJson? := by
  refine .closed rfl (by decide) ?_
  intro ms ms' h
  simp (disch := simp [parts, Parts.plain]) only [h.required (.fixed _), h.optional (.fixed _)]

end Condition

namespace ConditionList

def parts : Parts := [("conditions", items Condition.parts.variation)]

theorem heeds : Heeds parts.variation ofJson? := by
  refine .closed rfl (by decide) ?_
  intro ms ms' h
  rw [h.withDefault Condition.heeds.items (k := "conditions") (by simp [parts])]

end ConditionList

namespace Metadata

/-- Who owns the object, and who has set which of its fields, are lists of structures. -/
def parts : Parts :=
  .plain ["name", "generateName", "namespace", "uid", "labels", "annotations", "generation", "resourceVersion",
    "finalizers", "creationTimestamp", "deletionGracePeriodSeconds", "deletionTimestamp", "selfLink"] ++
  [("ownerReferences",
      items (Parts.plain ["apiVersion", "blockOwnerDeletion", "controller", "kind", "name", "uid"]).variation),
   ("managedFields",
      items (Parts.plain ["apiVersion", "fieldsType", "fieldsV1", "manager", "operation", "subresource",
        "time"]).variation)]

theorem heeds_owner? :
    Heeds (Parts.plain ["apiVersion", "blockOwnerDeletion", "controller", "kind", "name", "uid"]).variation owner? := by
  refine .opened ?_
  intro ms ms' h
  simp (disch := simp [Parts.plain]) only [h.lastOf (.fixed _)]

theorem heeds_managedFields? :
    Heeds (Parts.plain ["apiVersion", "fieldsType", "fieldsV1", "manager", "operation", "subresource",
      "time"]).variation managedFields? := by
  refine .opened ?_
  intro ms ms' h
  simp (disch := simp [Parts.plain]) only [h.lastOf (.fixed _)]

theorem unkept?_of_agrees {ms ms' : List (String × Json)} (h : Json.Agrees parts ms ms') :
    unkept? ms = unkept? ms' := by
  unfold unkept?
  rw [h.lastOf heeds_owner?.items (k := "ownerReferences") (by simp [parts]),
    h.lastOf heeds_managedFields?.items (k := "managedFields") (by simp [parts])]
  simp (disch := simp [parts, Parts.plain]) only [h.lastOf (.fixed _)]

theorem heeds : Heeds parts.variation ofJson? := by
  refine .opened ?_
  intro ms ms' h
  rw [unkept?_of_agrees h]
  simp (disch := simp [parts, Parts.plain]) only [h.lastOf (.fixed _)]

end Metadata

/-! ## Objects -/

namespace Custom

variable {Spec Status : Type}

/-- What an object says of its kind is not among its parts. -/
def parts (spec status : Variation) : Parts :=
  [("metadata", Metadata.parts.variation), ("spec", spec), ("status", status)]

theorem heeds {V W : Variation} {spec : Json → Option Spec} {status : Json → Option Status} (hspec : Heeds V spec)
    (hstatus : Heeds W status) : Heeds (parts V W).variation (ofJson? spec status) := by
  refine .object rfl (by decide) ?_
  intro ms ms' h
  rw [h.required Metadata.heeds (k := "metadata") (by simp [parts]), h.required hspec (k := "spec") (by simp [parts]),
    h.optional hstatus (k := "status") (by simp [parts])]

end Custom

/-! ## Gateways and routes -/

namespace GatewayClassSpec

def parts : Parts := .plain ["controllerName", "description"]

theorem heeds : Heeds parts.variation ofJson? := by
  refine .closed rfl (by decide) ?_
  intro ms ms' h
  simp (disch := simp [parts, Parts.plain]) only [h.required (.fixed _), h.optional (.fixed _)]

end GatewayClassSpec

namespace RouteNamespaces

def parts : Parts := .plain ["from"]

theorem heeds : Heeds parts.variation ofJson? := by
  refine .closed rfl (by decide) ?_
  intro ms ms' h
  simp (disch := simp [parts, Parts.plain]) only [h.optional (.fixed _)]

end RouteNamespaces

namespace AllowedRoutes

def parts : Parts := [("namespaces", RouteNamespaces.parts.variation)]

theorem heeds : Heeds parts.variation ofJson? := by
  refine .closed rfl (by decide) ?_
  intro ms ms' h
  rw [h.optional RouteNamespaces.heeds (k := "namespaces") (by simp [parts])]

end AllowedRoutes

namespace Listener

def parts : Parts :=
  .plain ["name", "hostname", "port", "protocol"] ++ [("allowedRoutes", AllowedRoutes.parts.variation)]

theorem heeds : Heeds parts.variation ofJson? := by
  refine .closed rfl (by decide) ?_
  intro ms ms' h
  rw [h.optional AllowedRoutes.heeds (k := "allowedRoutes") (by simp [parts])]
  simp (disch := simp [parts, Parts.plain]) only [h.required (.fixed _), h.optional (.fixed _)]

end Listener

namespace GatewaySpec

def parts : Parts := [("gatewayClassName", fixed), ("listeners", items Listener.parts.variation)]

theorem heeds : Heeds parts.variation ofJson? := by
  refine .closed rfl (by decide) ?_
  intro ms ms' h
  rw [h.required (.fixed _) (k := "gatewayClassName") (by simp [parts]),
    h.required Listener.heeds.items (k := "listeners") (by simp [parts])]

end GatewaySpec

namespace ParentReference

def parts : Parts := .plain ["group", "kind", "namespace", "name", "sectionName"]

theorem heeds : Heeds parts.variation ofJson? := by
  refine .closed rfl (by decide) ?_
  intro ms ms' h
  simp (disch := simp [parts, Parts.plain]) only [h.required (.fixed _), h.optional (.fixed _)]

end ParentReference

namespace BackendReference

def parts : Parts := .plain ["name", "port"]

theorem heeds : Heeds parts.variation ofJson? := by
  refine .closed rfl (by decide) ?_
  intro ms ms' h
  simp (disch := simp [parts, Parts.plain]) only [h.required (.fixed _), h.optional (.fixed _)]

end BackendReference

namespace RouteRule

def parts : Parts := [("backendRefs", items BackendReference.parts.variation)]

theorem heeds : Heeds parts.variation ofJson? := by
  refine .closed rfl (by decide) ?_
  intro ms ms' h
  rw [h.withDefault BackendReference.heeds.items (k := "backendRefs") (by simp [parts])]

end RouteRule

namespace HttpRouteSpec

def parts : Parts :=
  [("parentRefs", items ParentReference.parts.variation), ("hostnames", fixed),
   ("rules", items RouteRule.parts.variation)]

theorem heeds : Heeds parts.variation ofJson? := by
  refine .closed rfl (by decide) ?_
  intro ms ms' h
  rw [h.withDefault ParentReference.heeds.items (k := "parentRefs") (by simp [parts]),
    h.withDefault (.fixed _) (k := "hostnames") (by simp [parts]),
    h.withDefault RouteRule.heeds.items (k := "rules") (by simp [parts])]

end HttpRouteSpec

namespace ParentStatus

def parts : Parts :=
  [("parentRef", ParentReference.parts.variation), ("controllerName", fixed),
   ("conditions", items Condition.parts.variation)]

theorem heeds : Heeds parts.variation ofJson? := by
  refine .closed rfl (by decide) ?_
  intro ms ms' h
  rw [h.required ParentReference.heeds (k := "parentRef") (by simp [parts]),
    h.withDefault (.fixed _) (k := "controllerName") (by simp [parts]),
    h.withDefault Condition.heeds.items (k := "conditions") (by simp [parts])]

end ParentStatus

namespace HttpRouteStatus

def parts : Parts := [("parents", items ParentStatus.parts.variation)]

theorem heeds : Heeds parts.variation ofJson? := by
  refine .closed rfl (by decide) ?_
  intro ms ms' h
  rw [h.withDefault ParentStatus.heeds.items (k := "parents") (by simp [parts])]

end HttpRouteStatus

/-! ## Operators and control planes -/

namespace SubscriptionSpec

def parts : Parts := .plain ["name", "channel", "source", "sourceNamespace", "installPlanApproval", "startingCsv"]

theorem heeds : Heeds parts.variation ofJson? := by
  refine .closed rfl (by decide) ?_
  intro ms ms' h
  simp (disch := simp [parts, Parts.plain]) only [h.withDefault (.fixed _), h.optional (.fixed _)]

end SubscriptionSpec

namespace SubscriptionStatus

def parts : Parts := .plain ["installedCSV", "currentCSV", "state"]

theorem heeds : Heeds parts.variation ofJson? := by
  refine .closed rfl (by decide) ?_
  intro ms ms' h
  simp (disch := simp [parts, Parts.plain]) only [h.optional (.fixed _)]

end SubscriptionStatus

namespace CatalogSpec

def parts : Parts := .plain ["sourceType", "image", "displayName"]

theorem heeds : Heeds parts.variation ofJson? := by
  refine .closed rfl (by decide) ?_
  intro ms ms' h
  simp (disch := simp [parts, Parts.plain]) only [h.withDefault (.fixed _), h.optional (.fixed _)]

end CatalogSpec

namespace ConnectionState

def parts : Parts := .plain ["address", "lastObservedState"]

theorem heeds : Heeds parts.variation ofJson? := by
  refine .closed rfl (by decide) ?_
  intro ms ms' h
  simp (disch := simp [parts, Parts.plain]) only [h.withDefault (.fixed _), h.optional (.fixed _)]

end ConnectionState

namespace CatalogStatus

def parts : Parts := [("connectionState", ConnectionState.parts.variation)]

theorem heeds : Heeds parts.variation ofJson? := by
  refine .closed rfl (by decide) ?_
  intro ms ms' h
  rw [h.optional ConnectionState.heeds (k := "connectionState") (by simp [parts])]

end CatalogStatus

namespace ControlPlaneSpec

def parts : Parts := .plain ["version", "mode"]

theorem heeds : Heeds parts.variation ofJson? := by
  refine .closed rfl (by decide) ?_
  intro ms ms' h
  simp (disch := simp [parts, Parts.plain]) only [h.optional (.fixed _)]

end ControlPlaneSpec

namespace ComponentStates

def parts : Parts := .plain ["components"]

theorem heeds : Heeds parts.variation ofJson? := by
  refine .closed rfl (by decide) ?_
  intro ms ms' h
  simp (disch := simp [parts, Parts.plain]) only [h.optional (.fixed _)]

end ComponentStates

namespace ControlPlaneStatus

def parts : Parts := [("readiness", ComponentStates.parts.variation)]

theorem heeds : Heeds parts.variation ofJson? := by
  refine .closed rfl (by decide) ?_
  intro ms ms' h
  rw [h.withDefault ComponentStates.heeds (k := "readiness") (by simp [parts])]

end ControlPlaneStatus

/-! ## DNS records -/

namespace DnsRecordSpec

def parts : Parts := .plain ["dnsName", "recordType", "targets", "recordTTL"]

theorem heeds : Heeds parts.variation ofJson? := by
  refine .closed rfl (by decide) ?_
  intro ms ms' h
  simp (disch := simp [parts, Parts.plain]) only [h.withDefault (.fixed _)]

end DnsRecordSpec

namespace DnsZone

def parts : Parts := .plain ["id", "tags"]

theorem heeds : Heeds parts.variation ofJson? := by
  refine .closed rfl (by decide) ?_
  intro ms ms' h
  simp (disch := simp [parts, Parts.plain]) only [h.withDefault (.fixed _), h.optional (.fixed _)]

end DnsZone

namespace ZoneStatus

def parts : Parts := [("dnsZone", DnsZone.parts.variation), ("conditions", items Condition.parts.variation)]

theorem heeds : Heeds parts.variation ofJson? := by
  refine .closed rfl (by decide) ?_
  intro ms ms' h
  rw [h.withDefault DnsZone.heeds (k := "dnsZone") (by simp [parts]),
    h.withDefault Condition.heeds.items (k := "conditions") (by simp [parts])]

end ZoneStatus

namespace DnsRecordStatus

def parts : Parts := [("zones", items ZoneStatus.parts.variation), ("observedGeneration", fixed)]

theorem heeds : Heeds parts.variation ofJson? := by
  refine .closed rfl (by decide) ?_
  intro ms ms' h
  rw [h.withDefault ZoneStatus.heeds.items (k := "zones") (by simp [parts]),
    h.optional (.fixed _) (k := "observedGeneration") (by simp [parts])]

end DnsRecordStatus

/-! ## Every kind -/

/-- The object of the kind that the text describes, if it does. -/
def decode (K : Type) [Resource K] (t : String) : Option K := (Json.read? t).bind Resource.ofJson?

/-- What an object says but of its kind. -/
def unlabelled (ms : List (String × Json)) : List (String × Json) :=
  ms.filter fun m => m.1 != "apiVersion" && m.1 != "kind"

/-- Repeated or not, wrong or missing: what an object says of its kind is not read. -/
theorem Custom.ofJson?_of_unlabelled {Spec Status : Type} (spec : Json → Option Spec) (status : Json → Option Status)
    {ms ms' : List (String × Json)} (h : unlabelled ms = unlabelled ms') :
    ofJson? spec status (.object ms) = ofJson? spec status (.object ms') := by
  have hnamed : ∀ k, k ≠ "apiVersion" → k ≠ "kind" → Json.named k ms = Json.named k ms' := by
    intro k hversion hkind
    have hread : ∀ ns, Json.named k (unlabelled ns) = Json.named k ns := by
      intro ns
      rw [Json.named, Json.named, unlabelled, List.filter_filter]
      apply List.filter_congr
      intro m _
      by_cases hm : m.1 = k
      · simp [hm, hversion, hkind]
      · simp [hm]
    rw [← hread ms, ← hread ms', h]
  have hmetadata := hnamed "metadata" (by decide) (by decide)
  have hspec := hnamed "spec" (by decide) (by decide)
  have hstatus := hnamed "status" (by decide) (by decide)
  have honce : (["metadata", "spec", "status"].all fun k => (Json.named k ms).length ≤ 1) =
      ["metadata", "spec", "status"].all fun k => (Json.named k ms').length ≤ 1 := by
    simp only [List.all_cons, List.all_nil, hmetadata, hspec, hstatus]
  simp only [ofJson?, Json.objectMembers?, Json.members?, honce]
  split
  · simp only [Option.bind_eq_bind, Option.bind_some, Json.required, Json.optional, Json.withDefault,
      Json.lookup_eq_named, hmetadata, hspec, hstatus]
  · rfl

/-- Whether a text describes an object of the kind, and which one, is decided by what stands under the known names of
its structures. -/
structure HeedsKnownNames (K : Type) [Resource K] (V : Variation) : Prop where
  /-- The second text is the first one with the members of its structures in another order and others among them. -/
  varied : ∀ t t' j j', Json.read? t = some j → Json.read? t' = some j' → j.hasUniqueNames = true → V j j' →
    decode K t = decode K t'
  /-- The second text says of its kind what it likes. -/
  relabelled : ∀ t t' ms ms', Json.read? t = some (.object ms) → Json.read? t' = some (.object ms') →
    unlabelled ms = unlabelled ms' → decode K t = decode K t'

theorem Custom.heedsKnownNames {Spec Status : Type} {V W : Variation} {spec : Json → Option Spec}
    {status : Json → Option Status} (hspec : Heeds V spec) (hstatus : Heeds W status) [Resource (Custom Spec Status)]
    (hread : Resource.ofJson? (K := Custom Spec Status) = ofJson? spec status) :
    HeedsKnownNames (Custom Spec Status) (parts V W).variation where
  varied t t' j j' hj hj' hunique hV := by
    rw [decode, decode, hj, hj', Option.bind_some, Option.bind_some, hread]
    exact (Custom.heeds hspec hstatus).same hunique hV
  relabelled t t' ms ms' hms hms' hlabels := by
    rw [decode, decode, hms, hms', Option.bind_some, Option.bind_some, hread]
    exact ofJson?_of_unlabelled spec status hlabels

/-- For every kind that extends a cluster: to put the members of its structures into another order, to add members of
unknown names to any of them, at any depth, or to change what an object says of its kind, changes neither whether a
text describes an object of the kind nor which. -/
theorem decoding_heeds_known_names :
    HeedsKnownNames GatewayClass
      (Custom.parts GatewayClassSpec.parts.variation ConditionList.parts.variation).variation ∧
    HeedsKnownNames Gateway (Custom.parts GatewaySpec.parts.variation ConditionList.parts.variation).variation ∧
    HeedsKnownNames HttpRoute (Custom.parts HttpRouteSpec.parts.variation HttpRouteStatus.parts.variation).variation ∧
    HeedsKnownNames Subscription
      (Custom.parts SubscriptionSpec.parts.variation SubscriptionStatus.parts.variation).variation ∧
    HeedsKnownNames CatalogSource (Custom.parts CatalogSpec.parts.variation CatalogStatus.parts.variation).variation ∧
    HeedsKnownNames ControlPlane
      (Custom.parts ControlPlaneSpec.parts.variation ControlPlaneStatus.parts.variation).variation ∧
    HeedsKnownNames DnsRecord (Custom.parts DnsRecordSpec.parts.variation DnsRecordStatus.parts.variation).variation :=
  ⟨Custom.heedsKnownNames GatewayClassSpec.heeds ConditionList.heeds rfl,
    Custom.heedsKnownNames GatewaySpec.heeds ConditionList.heeds rfl,
    Custom.heedsKnownNames HttpRouteSpec.heeds HttpRouteStatus.heeds rfl,
    Custom.heedsKnownNames SubscriptionSpec.heeds SubscriptionStatus.heeds rfl,
    Custom.heedsKnownNames CatalogSpec.heeds CatalogStatus.heeds rfl,
    Custom.heedsKnownNames ControlPlaneSpec.heeds ControlPlaneStatus.heeds rfl,
    Custom.heedsKnownNames DnsRecordSpec.heeds DnsRecordStatus.heeds rfl⟩

/-- A class, and the same with its members in another order, others among them, and a wrong kind. -/
def plainClass : Json :=
  .object [("metadata", .object [("name", .string "c")]),
    ("spec", .object [("controllerName", .string "x"), ("description", .string "d")])]

def strangeMetadata : Json := .object [("name", .string "c"), ("hints", .object [("name", .null)])]

def strangeSpec : Json :=
  .object [("parametersRef", .array [.null]), ("description", .string "d"), ("controllerName", .string "x")]

def strangeClass : Json := .object [("spec", strangeSpec), ("kind", .string "Service"), ("metadata", strangeMetadata)]

theorem strangeClass_varies :
    (Custom.parts GatewayClassSpec.parts.variation ConditionList.parts.variation).variation plainClass
      strangeClass := by
  have hmetadata : Metadata.parts.variation (.object [("name", .string "c")]) strangeMetadata :=
    ⟨_, .cons (.of_mem (V := fixed) (by decide) (by simp [Metadata.parts, Parts.plain]) rfl) .nil, List.Perm.refl _⟩
  have hspec : GatewayClassSpec.parts.variation
      (.object [("controllerName", .string "x"), ("description", .string "d")]) strangeSpec :=
    Parts.Members.of_plain (List.Perm.swap _ _ _)
  refine ⟨[("metadata", strangeMetadata), ("spec", strangeSpec)], .cons ?_ (.cons ?_ .nil), List.Perm.swap _ _ _⟩
  · exact .of_mem (by decide) (by simp [Custom.parts]) hmetadata
  · exact .of_mem (by decide) (by simp [Custom.parts]) hspec

theorem decoding_heeds_known_names_of_strange :
    Json.read? plainClass.text = some plainClass ∧ Json.read? strangeClass.text = some strangeClass ∧
      plainClass.hasUniqueNames = true ∧
      (Custom.parts GatewayClassSpec.parts.variation ConditionList.parts.variation).variation plainClass strangeClass ∧
      decode GatewayClass plainClass.text = decode GatewayClass strangeClass.text := by
  have hplain : Json.read? plainClass.text = some plainClass := Json.read?_text (by decide +kernel)
  have hstrange : Json.read? strangeClass.text = some strangeClass := Json.read?_text (by decide +kernel)
  have hunique : plainClass.hasUniqueNames = true := by decide +kernel
  exact ⟨hplain, hstrange, hunique, strangeClass_varies,
    decoding_heeds_known_names.1.varied _ _ _ _ hplain hstrange hunique strangeClass_varies⟩

end ClusterProbe
