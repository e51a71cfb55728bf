/-
  ClusterProbe.Resource.ApiType — the structures of the API server's own kinds.

  Pods, services and the like have far more members than are read here. Each of those has
  a form of its own all the same, and an object in which one of them has another form is
  not read at all. Which forms these are is left open (`ApiTypes`), and nothing is
  assumed of them: what is read here is read whatever the others have to be.
-/

import ClusterProbe.Json.Record

namespace ClusterProbe

/-- The structures that have members which are not read. -/
inductive ApiType where
  | capabilities
  | configMap
  | container
  | containerPort
  | definitionCondition
  | definitionNames
  | definitionSpec
  | definitionStatus
  | definitionVersion
  | deployment
  | deploymentSpec
  | namespace
  | podSpec
  | podStatus
  | seccompProfile
  | securityContext
  | service
  | servicePort
  | serviceSpec
  deriving DecidableEq, Repr

class ApiTypes where
  /-- In a structure of the type the value can stand under the name. -/
  fits : ApiType → String → Json → Bool

/-- Any value fits: enough for objects that have no other members than are read. -/
@[reducible] def ApiTypes.any : ApiTypes := ⟨fun _ _ _ => true⟩

namespace ApiType

variable [ApiTypes]

/-- Those of the members that are not read have their form. -/
def accepts (t : ApiType) (read : List String) (ms : List (String × Json)) : Bool :=
  ms.all fun m => read.contains m.1 || ApiTypes.fits t m.1 m.2

/-- The members of an object of the type, of which these are read. -/
def members? (t : ApiType) (read : List String) (j : Json) : Option (List (String × Json)) :=
  (Json.openMembers? j).filter (t.accepts read)

theorem openMembers?_of_members? {t : ApiType} {read : List String} {j : Json} {ms : List (String × Json)}
    (h : t.members? read j = some ms) : Json.openMembers? j = some ms := (Option.filter_eq_some_iff.mp h).1

end ApiType

end ClusterProbe
