/-
  ClusterProbe.Resource.HttpRoute — routes and what their parents say of them.

  A route is taken on when it has a parent status and every parent reports both
  `Accepted` and `ResolvedRefs` as true. Otherwise the first parent that does not is
  described, with the messages of its own conditions (`failure?`).
-/

import ClusterProbe.Resource.Gateway

namespace ClusterProbe

structure ParentReference where
  group : Option String := none
  kind : Option String := none
  «namespace» : Option String := none
  name : String
  sectionName : Option String := none
  deriving DecidableEq, Repr

structure BackendReference where
  name : String
  port : Option Int32
  deriving DecidableEq, Repr

structure RouteRule where
  backendRefs : List BackendReference
  deriving DecidableEq, Repr

structure HttpRouteSpec where
  parentRefs : List ParentReference
  hostnames : List String
  rules : List RouteRule
  deriving DecidableEq, Repr

structure ParentStatus where
  parentRef : ParentReference
  controllerName : String
  conditions : List Condition
  deriving DecidableEq, Repr

structure HttpRouteStatus where
  parents : List ParentStatus
  deriving DecidableEq, Repr

abbrev HttpRoute := Custom HttpRouteSpec HttpRouteStatus

/-! ## Wire form -/

namespace ParentReference

def text (p : ParentReference) : String :=
  match p.namespace with
  | some ns => ns ++ "/" ++ p.name
  | none => p.name

def toJson (p : ParentReference) : Json :=
  Json.record
    [Json.field? "group" .string p.group,
     Json.field? "kind" .string p.kind,
     Json.field? "namespace" .string p.namespace,
     Json.field "name" (.string p.name),
     Json.field? "sectionName" .string p.sectionName]

def ofJson? (j : Json) : Option ParentReference := do
  let ms ← Json.members? ["group", "kind", "namespace", "name", "sectionName"] j
  return {
    group := ← Json.optional Json.string? "group" ms
    kind := ← Json.optional Json.string? "kind" ms
    «namespace» := ← Json.optional Json.string? "namespace" ms
    name := ← Json.required Json.string? "name" ms
    sectionName := ← Json.optional Json.string? "sectionName" ms }

end ParentReference

namespace BackendReference

def toJson (b : BackendReference) : Json :=
  Json.record [Json.field "name" (.string b.name), Json.field? "port" Json.ofInt32 b.port]

def ofJson? (j : Json) : Option BackendReference := do
  let ms ← Json.members? ["name", "port"] j
  return {
    name := ← Json.required Json.string? "name" ms
    port := ← Json.optional Json.int32? "port" ms }

end BackendReference

namespace RouteRule

def toJson (r : RouteRule) : Json :=
  Json.record [Json.field "backendRefs" (Json.ofList BackendReference.toJson r.backendRefs)]

def ofJson? (j : Json) : Option RouteRule := do
  let ms ← Json.members? ["backendRefs"] j
  return ⟨← Json.withDefault [] (Json.list? BackendReference.ofJson?) "backendRefs" ms⟩

end RouteRule

namespace HttpRouteSpec

def toJson (s : HttpRouteSpec) : Json :=
  Json.record
    [Json.field "parentRefs" (Json.ofList ParentReference.toJson s.parentRefs),
     Json.field "hostnames" (Json.ofList .string s.hostnames),
     Json.field "rules" (Json.ofList RouteRule.toJson s.rules)]

def ofJson? (j : Json) : Option HttpRouteSpec := do
  let ms ← Json.members? ["parentRefs", "hostnames", "rules"] j
  return {
    parentRefs := ← Json.withDefault [] (Json.list? ParentReference.ofJson?) "parentRefs" ms
    hostnames := ← Json.withDefault [] (Json.list? Json.string?) "hostnames" ms
    rules := ← Json.withDefault [] (Json.list? RouteRule.ofJson?) "rules" ms }

end HttpRouteSpec

namespace ParentStatus

def toJson (s : ParentStatus) : Json :=
  Json.record
    [Json.field "parentRef" s.parentRef.toJson,
     Json.field "controllerName" (.string s.controllerName),
     Json.field "conditions" (Json.ofList Condition.toJson s.conditions)]

def ofJson? (j : Json) : Option ParentStatus := do
  let ms ← Json.members? ["parentRef", "controllerName", "conditions"] j
  return {
    parentRef := ← Json.required ParentReference.ofJson? "parentRef" ms
    controllerName := ← Json.withDefault "" Json.string? "controllerName" ms
    conditions := ← Json.withDefault [] (Json.list? Condition.ofJson?) "conditions" ms }

end ParentStatus

namespace HttpRouteStatus

def toJson (s : HttpRouteStatus) : Json :=
  Json.record [Json.field "parents" (Json.ofList ParentStatus.toJson s.parents)]

def ofJson? (j : Json) : Option HttpRouteStatus := do
  let ms ← Json.members? ["parents"] j
  return ⟨← Json.withDefault [] (Json.list? ParentStatus.ofJson?) "parents" ms⟩

end HttpRouteStatus

namespace HttpRoute

def kind : Kind := ⟨"gateway.networking.k8s.io", "v1", "HTTPRoute", "httproutes"⟩

end HttpRoute

instance : Resource HttpRoute where
  kind := HttpRoute.kind
  metadata := Custom.metadata
  toJson := Custom.toJson HttpRoute.kind HttpRouteSpec.toJson HttpRouteStatus.toJson
  ofJson? := Custom.ofJson? HttpRouteSpec.ofJson? HttpRouteStatus.ofJson?

/-! ## Being taken on -/

/-- The condition that tells whether everything a route refers to exists. -/
def resolvedRefsType : String := "ResolvedRefs"

namespace ParentStatus

/-- The message of the parent's first condition of the type, or that there is none. -/
def messageOf (p : ParentStatus) (type absent : String) : String :=
  match Condition.find? p.conditions type with
  | some c => c.messageOrEmpty
  | none => absent

def acceptedMessage (p : ParentStatus) : String :=
  p.messageOf acceptedType "no accepted parent conditions"

def resolvedRefsMessage (p : ParentStatus) : String :=
  p.messageOf resolvedRefsType "no resolved ref parent conditions"

/-- What the parent has against the route. -/
def failure? (route : String) (p : ParentStatus) : Option String :=
  let subject := route ++ ", parent " ++ p.parentRef.text
  match Condition.unmet? p.conditions acceptedType, Condition.unmet? p.conditions resolvedRefsType with
  | none, none => none
  | some _, some _ =>
    some (subject ++ " neither " ++ acceptedType ++ " nor " ++ resolvedRefsType ++
      ", last recorded status messages: " ++ p.acceptedMessage ++ "; " ++ p.resolvedRefsMessage)
  | some _, none =>
    some (subject ++ " not " ++ acceptedType ++ ", last recorded status message: " ++ p.acceptedMessage)
  | none, some _ =>
    some (subject ++ " not " ++ resolvedRefsType ++ ", last recorded status message: " ++
      p.resolvedRefsMessage)

end ParentStatus

namespace HttpRoute

def parents (r : HttpRoute) : List ParentStatus := (r.status.map (·.parents)).getD []

/-- How the route is called in messages about its parents. -/
def title (r : HttpRoute) : String :=
  "httpRoute " ++ r.metadata.namespaceOrEmpty ++ "/" ++ r.metadata.nameToShow

/-- Why not every parent has taken the route on. -/
def failure? (r : HttpRoute) : Option String :=
  match r.parents with
  | [] => some (r.title ++ " has no parent conditions")
  | ps => ps.findSome? (ParentStatus.failure? r.title)

def attached (r : HttpRoute) : Readiness Unit := .ofObstacle r.failure?

end HttpRoute

end ClusterProbe
