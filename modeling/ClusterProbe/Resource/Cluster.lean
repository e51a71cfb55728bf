/-
  ClusterProbe.Resource.Cluster — objects that hold settings for the cluster itself:
  namespaces, configuration maps and cluster-wide role bindings.
-/

import ClusterProbe.Resource.Kind

namespace ClusterProbe

/-! ## Namespaces -/

structure Namespace where
  metadata : Metadata
  deriving DecidableEq, Repr

namespace Namespace

def kind : Kind := ⟨"", "v1", "Namespace", "namespaces"⟩

def toJson (n : Namespace) : Json :=
  Json.record (kind.fields ++ [Json.field "metadata" n.metadata.toJson])

def ofJson? [ApiTypes] (j : Json) : Option Namespace := do
  let ms ← kind.members? .namespace ["metadata"] j
  return ⟨← Json.lastOr {} Metadata.ofJson? "metadata" ms⟩

end Namespace

instance [ApiTypes] : Resource Namespace := ⟨Namespace.kind, Namespace.metadata, Namespace.toJson, Namespace.ofJson?⟩

/-! ## Configuration maps -/

structure ConfigMap where
  metadata : Metadata
  data : Option (Dict String)
  deriving DecidableEq, Repr

namespace ConfigMap

def kind : Kind := ⟨"", "v1", "ConfigMap", "configmaps"⟩

def toJson (c : ConfigMap) : Json :=
  Json.record (kind.fields ++
    [Json.field "metadata" c.metadata.toJson, Json.field? "data" (Json.ofDict .string) c.data])

def ofJson? [ApiTypes] (j : Json) : Option ConfigMap := do
  let ms ← kind.members? .configMap ["metadata", "data"] j
  return {
    metadata := ← Json.lastOr {} Metadata.ofJson? "metadata" ms
    data := ← Json.lastOf (Json.dict? Json.string?) "data" ms }

end ConfigMap

instance [ApiTypes] : Resource ConfigMap := ⟨ConfigMap.kind, ConfigMap.metadata, ConfigMap.toJson, ConfigMap.ofJson?⟩

/-! ## Role bindings -/

structure RoleReference where
  apiGroup : String := ""
  kind : String := ""
  name : String := ""
  deriving DecidableEq, Repr

/-- Who a role is given to. -/
structure Subject where
  kind : String
  name : String
  «namespace» : Option String
  apiGroup : Option String
  deriving DecidableEq, Repr

structure ClusterRoleBinding where
  metadata : Metadata
  roleRef : RoleReference
  subjects : Option (List Subject)
  deriving DecidableEq, Repr

namespace RoleReference

def toJson (r : RoleReference) : Json :=
  Json.record
    [Json.field "apiGroup" (.string r.apiGroup),
     Json.field "kind" (.string r.kind),
     Json.field "name" (.string r.name)]

def ofJson? (j : Json) : Option RoleReference := do
  let ms ← Json.openMembers? j
  return {
    apiGroup := ← Json.lastOr "" Json.string? "apiGroup" ms
    kind := ← Json.lastOr "" Json.string? "kind" ms
    name := ← Json.lastOr "" Json.string? "name" ms }

end RoleReference

namespace Subject

def toJson (s : Subject) : Json :=
  Json.record
    [Json.field "kind" (.string s.kind),
     Json.field "name" (.string s.name),
     Json.field? "namespace" .string s.namespace,
     Json.field? "apiGroup" .string s.apiGroup]

def ofJson? (j : Json) : Option Subject := do
  let ms ← Json.openMembers? j
  return {
    kind := ← Json.lastOr "" Json.string? "kind" ms
    name := ← Json.lastOr "" Json.string? "name" ms
    «namespace» := ← Json.lastOf Json.string? "namespace" ms
    apiGroup := ← Json.lastOf Json.string? "apiGroup" ms }

end Subject

namespace ClusterRoleBinding

def kind : Kind := ⟨"rbac.authorization.k8s.io", "v1", "ClusterRoleBinding", "clusterrolebindings"⟩

def toJson (b : ClusterRoleBinding) : Json :=
  Json.record (kind.fields ++
    [Json.field "metadata" b.metadata.toJson,
     Json.field "roleRef" b.roleRef.toJson,
     Json.field? "subjects" (Json.ofList Subject.toJson) b.subjects])

def ofJson? (j : Json) : Option ClusterRoleBinding := do
  let ms ← kind.openMembers? j
  return {
    metadata := ← Json.lastOr {} Metadata.ofJson? "metadata" ms
    roleRef := ← Json.lastOr {} RoleReference.ofJson? "roleRef" ms
    subjects := ← Json.lastOf (Json.list? Subject.ofJson?) "subjects" ms }

end ClusterRoleBinding

instance : Resource ClusterRoleBinding :=
  ⟨ClusterRoleBinding.kind, ClusterRoleBinding.metadata, ClusterRoleBinding.toJson, ClusterRoleBinding.ofJson?⟩

end ClusterProbe
