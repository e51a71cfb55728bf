/-
  ClusterProbe.Resource.Gateway — gateway classes and gateways.

  Both report conditions in their status and are accepted when the condition
  `Accepted` is met. A gateway's hostname is that of its first listener, unless it is
  missing or empty.
-/

import ClusterProbe.Condition
import ClusterProbe.Readiness
import ClusterProbe.Resource.Kind

namespace ClusterProbe

/-- A status of conditions and nothing else. -/
structure ConditionList where
  conditions : List Condition
  deriving DecidableEq, Repr

namespace ConditionList

def toJson (s : ConditionList) : Json :=
  Json.record [Json.field "conditions" (Json.ofList Condition.toJson s.conditions)]

def ofJson? (j : Json) : Option ConditionList := do
  let ms ← Json.members? ["conditions"] j
  return ⟨← Json.withDefault [] (Json.list? Condition.ofJson?) "conditions" ms⟩

end ConditionList

namespace Custom

/-- The conditions of the status; none without a status. -/
def conditions {Spec : Type} (c : Custom Spec ConditionList) : List Condition :=
  (c.status.map (·.conditions)).getD []

end Custom

/-- The condition that tells whether a controller has taken an object on. -/
def acceptedType : String := "Accepted"

def accepted {Spec : Type} (c : Custom Spec ConditionList) : Readiness Unit :=
  .ofObstacle (Condition.unmet? c.conditions acceptedType)

/-! ## Gateway classes -/

structure GatewayClassSpec where
  controllerName : String
  description : Option String
  deriving DecidableEq, Repr

abbrev GatewayClass := Custom GatewayClassSpec ConditionList

namespace GatewayClassSpec

def toJson (s : GatewayClassSpec) : Json :=
  Json.record
    [Json.field "controllerName" (.string s.controllerName),
     Json.field? "description" .string s.description]

def ofJson? (j : Json) : Option GatewayClassSpec := do
  let ms ← Json.members? ["controllerName", "description"] j
  return {
    controllerName := ← Json.required Json.string? "controllerName" ms
    description := ← Json.optional Json.string? "description" ms }

end GatewayClassSpec

namespace GatewayClass

def kind : Kind := ⟨"gateway.networking.k8s.io", "v1", "GatewayClass", "gatewayclasses"⟩

end GatewayClass

instance : Resource GatewayClass where
  kind := GatewayClass.kind
  metadata := Custom.metadata
  toJson := Custom.toJson GatewayClass.kind GatewayClassSpec.toJson ConditionList.toJson
  ofJson? := Custom.ofJson? GatewayClassSpec.ofJson? ConditionList.ofJson?

/-! ## Gateways -/

/-- Which namespaces' routes a listener admits: `All`, `Same` or `Selector`. -/
structure RouteNamespaces where
  «from» : Option String
  deriving DecidableEq, Repr

structure AllowedRoutes where
  namespaces : Option RouteNamespaces
  deriving DecidableEq, Repr

structure Listener where
  name : String
  hostname : Option String
  port : Int32
  protocol : String
  allowedRoutes : Option AllowedRoutes
  deriving DecidableEq, Repr

structure GatewaySpec where
  gatewayClassName : String
  listeners : List Listener
  deriving DecidableEq, Repr

abbrev Gateway := Custom GatewaySpec ConditionList

namespace RouteNamespaces

def toJson (r : RouteNamespaces) : Json := Json.record [Json.field? "from" .string r.from]

def ofJson? (j : Json) : Option RouteNamespaces := do
  let ms ← Json.members? ["from"] j
  return ⟨← Json.optional Json.string? "from" ms⟩

end RouteNamespaces

namespace AllowedRoutes

def toJson (r : AllowedRoutes) : Json :=
  Json.record [Json.field? "namespaces" RouteNamespaces.toJson r.namespaces]

def ofJson? (j : Json) : Option AllowedRoutes := do
  let ms ← Json.members? ["namespaces"] j
  return ⟨← Json.optional RouteNamespaces.ofJson? "namespaces" ms⟩

end AllowedRoutes

namespace Listener

def toJson (l : Listener) : Json :=
  Json.record
    [Json.field "name" (.string l.name),
     Json.field? "hostname" .string l.hostname,
     Json.field "port" (Json.ofInt32 l.port),
     Json.field "protocol" (.string l.protocol),
     Json.field? "allowedRoutes" AllowedRoutes.toJson l.allowedRoutes]

def ofJson? (j : Json) : Option Listener := do
  let ms ← Json.members? ["name", "hostname", "port", "protocol", "allowedRoutes"] j
  return {
    name := ← Json.required Json.string? "name" ms
    hostname := ← Json.optional Json.string? "hostname" ms
    port := ← Json.required Json.int32? "port" ms
    protocol := ← Json.required Json.string? "protocol" ms
    allowedRoutes := ← Json.optional AllowedRoutes.ofJson? "allowedRoutes" ms }

end Listener

namespace GatewaySpec

def toJson (s : GatewaySpec) : Json :=
  Json.record
    [Json.field "gatewayClassName" (.string s.gatewayClassName),
     Json.field "listeners" (Json.ofList Listener.toJson s.listeners)]

def ofJson? (j : Json) : Option GatewaySpec := do
  let ms ← Json.members? ["gatewayClassName", "listeners"] j
  return {
    gatewayClassName := ← Json.required Json.string? "gatewayClassName" ms
    listeners := ← Json.required (Json.list? Listener.ofJson?) "listeners" ms }

end GatewaySpec

namespace Gateway

def kind : Kind := ⟨"gateway.networking.k8s.io", "v1", "Gateway", "gateways"⟩

def firstListenerHostname? (g : Gateway) : Option String :=
  (g.spec.listeners.head?.bind (·.hostname)).filter (· ≠ "")

end Gateway

instance : Resource Gateway where
  kind := Gateway.kind
  metadata := Custom.metadata
  toJson := Custom.toJson Gateway.kind GatewaySpec.toJson ConditionList.toJson
  ofJson? := Custom.ofJson? GatewaySpec.ofJson? ConditionList.ofJson?

end ClusterProbe
