/-
  ClusterProbe.Resource.Definition — definitions of further kinds.

  A definition is established when the first condition `Established` of its status is
  true; its conditions are open structures with a status of any text, which is read
  the way every condition's is. The version it serves is the last one marked so.
-/

import ClusterProbe.Condition
import ClusterProbe.Readiness
import ClusterProbe.Resource.Kind

namespace ClusterProbe

structure DefinitionNames where
  kind : String := ""
  plural : String := ""
  deriving DecidableEq, Repr

structure DefinitionVersion where
  name : String
  served : Bool
  storage : Bool
  deriving DecidableEq, Repr

structure DefinitionSpec where
  group : String := ""
  names : DefinitionNames := {}
  scope : String := ""
  versions : List DefinitionVersion := []
  deriving DecidableEq, Repr

structure DefinitionCondition where
  type : String
  status : String
  message : Option String
  deriving DecidableEq, Repr

structure DefinitionStatus where
  conditions : Option (List DefinitionCondition)
  deriving DecidableEq, Repr

/-- The definition of a kind that extends the cluster. -/
structure Definition where
  metadata : Metadata
  spec : DefinitionSpec
  status : Option DefinitionStatus
  deriving DecidableEq, Repr

/-! ## Wire form -/

namespace DefinitionNames

def toJson (n : DefinitionNames) : Json :=
  Json.record [Json.field "kind" (.string n.kind), Json.field "plural" (.string n.plural)]

def ofJson? [ApiTypes] (j : Json) : Option DefinitionNames := do
  let ms ← ApiType.definitionNames.members? ["kind", "plural"] j
  return {
    kind := ← Json.lastOr "" Json.string? "kind" ms
    plural := ← Json.lastOr "" Json.string? "plural" ms }

end DefinitionNames

namespace DefinitionVersion

def toJson (v : DefinitionVersion) : Json :=
  Json.record
    [Json.field "name" (.string v.name),
     Json.field "served" (.bool v.served),
     Json.field "storage" (.bool v.storage)]

def ofJson? [ApiTypes] (j : Json) : Option DefinitionVersion := do
  let ms ← ApiType.definitionVersion.members? ["name", "served", "storage"] j
  return {
    name := ← Json.lastOr "" Json.string? "name" ms
    served := ← Json.lastOr false Json.bool? "served" ms
    storage := ← Json.lastOr false Json.bool? "storage" ms }

end DefinitionVersion

namespace DefinitionSpec

def toJson (s : DefinitionSpec) : Json :=
  Json.record
    [Json.field "group" (.string s.group),
     Json.field "names" s.names.toJson,
     Json.field "scope" (.string s.scope),
     Json.field "versions" (Json.ofList DefinitionVersion.toJson s.versions)]

def ofJson? [ApiTypes] (j : Json) : Option DefinitionSpec := do
  let ms ← ApiType.definitionSpec.members? ["group", "names", "scope", "versions"] j
  return {
    group := ← Json.lastOr "" Json.string? "group" ms
    names := ← Json.lastOr {} DefinitionNames.ofJson? "names" ms
    scope := ← Json.lastOr "" Json.string? "scope" ms
    versions := ← Json.lastOr [] (Json.list? DefinitionVersion.ofJson?) "versions" ms }

end DefinitionSpec

namespace DefinitionCondition

def toJson (c : DefinitionCondition) : Json :=
  Json.record
    [Json.field "type" (.string c.type),
     Json.field "status" (.string c.status),
     Json.field? "message" .string c.message]

def ofJson? [ApiTypes] (j : Json) : Option DefinitionCondition := do
  let ms ← ApiType.definitionCondition.members? ["type", "status", "message"] j
  return {
    type := ← Json.lastOr "" Json.string? "type" ms
    status := ← Json.lastOr "" Json.string? "status" ms
    message := ← Json.lastOf Json.string? "message" ms }

end DefinitionCondition

namespace DefinitionStatus

def toJson (s : DefinitionStatus) : Json :=
  Json.record [Json.field? "conditions" (Json.ofList DefinitionCondition.toJson) s.conditions]

def ofJson? [ApiTypes] (j : Json) : Option DefinitionStatus := do
  let ms ← ApiType.definitionStatus.members? ["conditions"] j
  return ⟨← Json.lastOf (Json.list? DefinitionCondition.ofJson?) "conditions" ms⟩

end DefinitionStatus

namespace Definition

def kind : Kind :=
  ⟨"apiextensions.k8s.io", "v1", "CustomResourceDefinition", "customresourcedefinitions"⟩

def toJson (d : Definition) : Json :=
  Json.record (kind.fields ++
    [Json.field "metadata" d.metadata.toJson,
     Json.field "spec" d.spec.toJson,
     Json.field? "status" DefinitionStatus.toJson d.status])

def ofJson? [ApiTypes] (j : Json) : Option Definition := do
  let ms ← kind.openMembers? j
  return {
    metadata := ← Json.lastOr {} Metadata.ofJson? "metadata" ms
    spec := ← Json.lastOr {} DefinitionSpec.ofJson? "spec" ms
    status := ← Json.lastOf DefinitionStatus.ofJson? "status" ms }

end Definition

instance [ApiTypes] : Resource Definition :=
  ⟨Definition.kind, Definition.metadata, Definition.toJson, Definition.ofJson?⟩

/-! ## Being established -/

namespace Definition

/-- The condition that tells whether objects of the kind can be stored. -/
def establishedType : String := "Established"

def conditions (d : Definition) : List DefinitionCondition := (d.status.bind (·.conditions)).getD []

def established (d : Definition) : Readiness Unit :=
  match d.conditions.find? (·.type == establishedType) with
  | some c =>
    match Tristate.ofText c.status with
    | .yes => .ready ()
    | t => .pending (establishedType ++ " is " ++ t.text ++ ", last recorded status message: " ++
        c.message.getD "")
  | none => .pending ("no " ++ establishedType ++ " condition reported")

/-- The last version marked as served. -/
def servedVersion? (d : Definition) : Option String :=
  (d.spec.versions.reverse.find? (·.served)).map (·.name)

end Definition

end ClusterProbe
