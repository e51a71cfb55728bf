/-
  ClusterProbe.Resource.Workload — pods, services, and the deployments that own pods.

  These are open structures: every member may be missing or null, and one that has to
  have a value then has the empty one. Most of them have more members than are read
  here. The pods of a deployment are found by the labels its selector asks for, as text
  `key=value,…` in key order (`selector?`); a deployment that asks for none has no such
  text.
-/

import ClusterProbe.Resource.Kind

namespace ClusterProbe

/-! ## Pods -/

structure ContainerPort where
  containerPort : Int32
  protocol : Option String
  deriving DecidableEq, Repr

structure Capabilities where
  drop : Option (List String)
  deriving DecidableEq, Repr

structure SeccompProfile where
  type : String
  deriving DecidableEq, Repr

structure SecurityContext where
  allowPrivilegeEscalation : Option Bool
  capabilities : Option Capabilities
  runAsNonRoot : Option Bool
  seccompProfile : Option SeccompProfile
  deriving DecidableEq, Repr

structure Container where
  name : String
  image : Option String
  command : Option (List String)
  args : Option (List String)
  ports : Option (List ContainerPort)
  securityContext : Option SecurityContext
  deriving DecidableEq, Repr

structure PodSpec where
  containers : List Container
  deriving DecidableEq, Repr

structure PodStatus where
  phase : Option String
  deriving DecidableEq, Repr

structure Pod where
  metadata : Metadata
  spec : Option PodSpec
  status : Option PodStatus
  deriving DecidableEq, Repr

namespace ContainerPort

def toJson (p : ContainerPort) : Json :=
  Json.record
    [Json.field "containerPort" (Json.ofInt32 p.containerPort), Json.field? "protocol" .string p.protocol]

def ofJson? [ApiTypes] (j : Json) : Option ContainerPort := do
  let ms ← ApiType.containerPort.members? ["containerPort", "protocol"] j
  return {
    containerPort := ← Json.lastOr 0 Json.int32? "containerPort" ms
    protocol := ← Json.lastOf Json.string? "protocol" ms }

end ContainerPort

namespace Capabilities

def toJson (c : Capabilities) : Json := Json.record [Json.field? "drop" (Json.ofList .string) c.drop]

def ofJson? [ApiTypes] (j : Json) : Option Capabilities := do
  let ms ← ApiType.capabilities.members? ["drop"] j
  return ⟨← Json.lastOf (Json.list? Json.string?) "drop" ms⟩

end Capabilities

namespace SeccompProfile

def toJson (p : SeccompProfile) : Json := Json.record [Json.field "type" (.string p.type)]

def ofJson? [ApiTypes] (j : Json) : Option SeccompProfile := do
  let ms ← ApiType.seccompProfile.members? ["type"] j
  return ⟨← Json.lastOr "" Json.string? "type" ms⟩

end SeccompProfile

namespace SecurityContext

def toJson (s : SecurityContext) : Json :=
  Json.record
    [Json.field? "allowPrivilegeEscalation" .bool s.allowPrivilegeEscalation,
     Json.field? "capabilities" Capabilities.toJson s.capabilities,
     Json.field? "runAsNonRoot" .bool s.runAsNonRoot,
     Json.field? "seccompProfile" SeccompProfile.toJson s.seccompProfile]

def ofJson? [ApiTypes] (j : Json) : Option SecurityContext := do
  let ms ← ApiType.securityContext.members?
    ["allowPrivilegeEscalation", "capabilities", "runAsNonRoot", "seccompProfile"] j
  return {
    allowPrivilegeEscalation := ← Json.lastOf Json.bool? "allowPrivilegeEscalation" ms
    capabilities := ← Json.lastOf Capabilities.ofJson? "capabilities" ms
    runAsNonRoot := ← Json.lastOf Json.bool? "runAsNonRoot" ms
    seccompProfile := ← Json.lastOf SeccompProfile.ofJson? "seccompProfile" ms }

end SecurityContext

namespace Container

def toJson (c : Container) : Json :=
  Json.record
    [Json.field "name" (.string c.name),
     Json.field? "image" .string c.image,
     Json.field? "command" (Json.ofList .string) c.command,
     Json.field? "args" (Json.ofList .string) c.args,
     Json.field? "ports" (Json.ofList ContainerPort.toJson) c.ports,
     Json.field? "securityContext" SecurityContext.toJson c.securityContext]

def ofJson? [ApiTypes] (j : Json) : Option Container := do
  let ms ← ApiType.container.members? ["name", "image", "command", "args", "ports", "securityContext"] j
  return {
    name := ← Json.lastOr "" Json.string? "name" ms
    image := ← Json.lastOf Json.string? "image" ms
    command := ← Json.lastOf (Json.list? Json.string?) "command" ms
    args := ← Json.lastOf (Json.list? Json.string?) "args" ms
    ports := ← Json.lastOf (Json.list? ContainerPort.ofJson?) "ports" ms
    securityContext := ← Json.lastOf SecurityContext.ofJson? "securityContext" ms }

end Container

namespace PodSpec

def toJson (s : PodSpec) : Json :=
  Json.record [Json.field "containers" (Json.ofList Container.toJson s.containers)]

def ofJson? [ApiTypes] (j : Json) : Option PodSpec := do
  let ms ← ApiType.podSpec.members? ["containers"] j
  return ⟨← Json.lastOr [] (Json.list? Container.ofJson?) "containers" ms⟩

end PodSpec

namespace PodStatus

def toJson (s : PodStatus) : Json := Json.record [Json.field? "phase" .string s.phase]

def ofJson? [ApiTypes] (j : Json) : Option PodStatus := do
  let ms ← ApiType.podStatus.members? ["phase"] j
  return ⟨← Json.lastOf Json.string? "phase" ms⟩

end PodStatus

namespace Pod

def kind : Kind := ⟨"", "v1", "Pod", "pods"⟩

def toJson (p : Pod) : Json :=
  Json.record (kind.fields ++
    [Json.field "metadata" p.metadata.toJson,
     Json.field? "spec" PodSpec.toJson p.spec,
     Json.field? "status" PodStatus.toJson p.status])

def ofJson? [ApiTypes] (j : Json) : Option Pod := do
  let ms ← kind.openMembers? j
  return {
    metadata := ← Json.lastOr {} Metadata.ofJson? "metadata" ms
    spec := ← Json.lastOf PodSpec.ofJson? "spec" ms
    status := ← Json.lastOf PodStatus.ofJson? "status" ms }

def phase? (p : Pod) : Option String := p.status.bind (·.phase)

end Pod

instance [ApiTypes] : Resource Pod := ⟨Pod.kind, Pod.metadata, Pod.toJson, Pod.ofJson?⟩

/-! ## Services -/

/-- A port by number or by name. -/
inductive PortReference where
  | number (n : Int32)
  | name (s : String)
  deriving DecidableEq, Repr

structure ServicePort where
  name : Option String
  port : Int32
  protocol : Option String
  targetPort : Option PortReference
  deriving DecidableEq, Repr

structure ServiceSpec where
  selector : Option (Dict String)
  ports : Option (List ServicePort)
  deriving DecidableEq, Repr

structure Service where
  metadata : Metadata
  spec : Option ServiceSpec
  deriving DecidableEq, Repr

namespace PortReference

def toJson : PortReference → Json
  | number n => Json.ofInt32 n
  | name s => .string s

def ofJson? : Json → Option PortReference
  | .string s => some (name s)
  | j => (Json.int32? j).map number

end PortReference

namespace ServicePort

def toJson (p : ServicePort) : Json :=
  Json.record
    [Json.field? "name" .string p.name,
     Json.field "port" (Json.ofInt32 p.port),
     Json.field? "protocol" .string p.protocol,
     Json.field? "targetPort" PortReference.toJson p.targetPort]

def ofJson? [ApiTypes] (j : Json) : Option ServicePort := do
  let ms ← ApiType.servicePort.members? ["name", "port", "protocol", "targetPort"] j
  return {
    name := ← Json.lastOf Json.string? "name" ms
    port := ← Json.lastOr 0 Json.int32? "port" ms
    protocol := ← Json.lastOf Json.string? "protocol" ms
    targetPort := ← Json.lastOf PortReference.ofJson? "targetPort" ms }

end ServicePort

namespace ServiceSpec

def toJson (s : ServiceSpec) : Json :=
  Json.record
    [Json.field? "selector" (Json.ofDict .string) s.selector,
     Json.field? "ports" (Json.ofList ServicePort.toJson) s.ports]

def ofJson? [ApiTypes] (j : Json) : Option ServiceSpec := do
  let ms ← ApiType.serviceSpec.members? ["selector", "ports"] j
  return {
    selector := ← Json.lastOf (Json.dict? Json.string?) "selector" ms
    ports := ← Json.lastOf (Json.list? ServicePort.ofJson?) "ports" ms }

end ServiceSpec

namespace Service

def kind : Kind := ⟨"", "v1", "Service", "services"⟩

def toJson (s : Service) : Json :=
  Json.record (kind.fields ++
    [Json.field "metadata" s.metadata.toJson, Json.field? "spec" ServiceSpec.toJson s.spec])

def ofJson? [ApiTypes] (j : Json) : Option Service := do
  let ms ← kind.members? .service ["metadata", "spec"] j
  return {
    metadata := ← Json.lastOr {} Metadata.ofJson? "metadata" ms
    spec := ← Json.lastOf ServiceSpec.ofJson? "spec" ms }

end Service

instance [ApiTypes] : Resource Service := ⟨Service.kind, Service.metadata, Service.toJson, Service.ofJson?⟩

/-! ## Deployments -/

/-- A requirement on one label beyond its being a given text. -/
structure LabelRequirement where
  key : String
  operator : String
  values : Option (List String)
  deriving DecidableEq, Repr

structure LabelSelector where
  matchLabels : Option (Dict String) := none
  matchExpressions : Option (List LabelRequirement) := none
  deriving DecidableEq, Repr

structure PodTemplate where
  metadata : Option Metadata := none
  spec : Option PodSpec := none
  deriving DecidableEq, Repr

structure DeploymentSpec where
  selector : LabelSelector
  template : PodTemplate
  deriving DecidableEq, Repr

structure Deployment where
  metadata : Metadata
  spec : Option DeploymentSpec
  deriving DecidableEq, Repr

namespace LabelRequirement

def toJson (r : LabelRequirement) : Json :=
  Json.record
    [Json.field "key" (.string r.key),
     Json.field "operator" (.string r.operator),
     Json.field? "values" (Json.ofList .string) r.values]

def ofJson? (j : Json) : Option LabelRequirement := do
  let ms ← Json.openMembers? j
  return {
    key := ← Json.lastOr "" Json.string? "key" ms
    operator := ← Json.lastOr "" Json.string? "operator" ms
    values := ← Json.lastOf (Json.list? Json.string?) "values" ms }

end LabelRequirement

namespace LabelSelector

def toJson (s : LabelSelector) : Json :=
  Json.record
    [Json.field? "matchLabels" (Json.ofDict .string) s.matchLabels,
     Json.field? "matchExpressions" (Json.ofList LabelRequirement.toJson) s.matchExpressions]

def ofJson? (j : Json) : Option LabelSelector := do
  let ms ← Json.openMembers? j
  return {
    matchLabels := ← Json.lastOf (Json.dict? Json.string?) "matchLabels" ms
    matchExpressions := ← Json.lastOf (Json.list? LabelRequirement.ofJson?) "matchExpressions" ms }

end LabelSelector

namespace PodTemplate

def toJson (t : PodTemplate) : Json :=
  Json.record
    [Json.field? "metadata" Metadata.toJson t.metadata, Json.field? "spec" PodSpec.toJson t.spec]

def ofJson? [ApiTypes] (j : Json) : Option PodTemplate := do
  let ms ← Json.openMembers? j
  return {
    metadata := ← Json.lastOf Metadata.ofJson? "metadata" ms
    spec := ← Json.lastOf PodSpec.ofJson? "spec" ms }

end PodTemplate

namespace DeploymentSpec

def toJson (s : DeploymentSpec) : Json :=
  Json.record [Json.field "selector" s.selector.toJson, Json.field "template" s.template.toJson]

def ofJson? [ApiTypes] (j : Json) : Option DeploymentSpec := do
  let ms ← ApiType.deploymentSpec.members? ["selector", "template"] j
  return {
    selector := ← Json.lastOr {} LabelSelector.ofJson? "selector" ms
    template := ← Json.lastOr {} PodTemplate.ofJson? "template" ms }

end DeploymentSpec

namespace Deployment

def kind : Kind := ⟨"apps", "v1", "Deployment", "deployments"⟩

def toJson (d : Deployment) : Json :=
  Json.record (kind.fields ++
    [Json.field "metadata" d.metadata.toJson, Json.field? "spec" DeploymentSpec.toJson d.spec])

def ofJson? [ApiTypes] (j : Json) : Option Deployment := do
  let ms ← kind.members? .deployment ["metadata", "spec"] j
  return {
    metadata := ← Json.lastOr {} Metadata.ofJson? "metadata" ms
    spec := ← Json.lastOf DeploymentSpec.ofJson? "spec" ms }

def matchLabels? (d : Deployment) : Option (Dict String) := d.spec.bind (·.selector.matchLabels)

/-- The labels asked for, as text. -/
def selector? (d : Deployment) : Option String :=
  match d.matchLabels? with
  | some labels =>
    if labels.isEmpty then none
    else some (",".intercalate (labels.entries.map fun e => e.1 ++ "=" ++ e.2))
  | none => none

end Deployment

instance [ApiTypes] : Resource Deployment :=
  ⟨Deployment.kind, Deployment.metadata, Deployment.toJson, Deployment.ofJson?⟩

end ClusterProbe
