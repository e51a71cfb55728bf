/-
  ClusterProbe.Resource.Metadata — what every object says about itself.

  Every member may be missing or null. The name to show is the object's name, else
  the stem that the server makes names from, else nothing (`nameToShow`). When the
  object was made, what owns it and who set which of its fields is not kept, but it has
  to be well formed.
-/

import ClusterProbe.Json.Record
import ClusterProbe.Timestamp

namespace ClusterProbe

structure Metadata where
  name : Option String := none
  generateName : Option String := none
  «namespace» : Option String := none
  uid : Option String := none
  labels : Option (Dict String) := none
  annotations : Option (Dict String) := none
  generation : Option Int64 := none
  resourceVersion : Option String := none
  finalizers : Option (List String) := none
  deriving DecidableEq, Repr

instance : Inhabited Metadata := ⟨{}⟩

namespace Metadata

def nameToShow (m : Metadata) : String := (m.name.orElse fun _ => m.generateName).getD ""

def namespaceOrEmpty (m : Metadata) : String := m.namespace.getD ""

def labelsOrEmpty (m : Metadata) : Dict String := m.labels.getD .empty

def toJson (m : Metadata) : Json :=
  Json.record
    [Json.field? "name" .string m.name,
     Json.field? "generateName" .string m.generateName,
     Json.field? "namespace" .string m.namespace,
     Json.field? "uid" .string m.uid,
     Json.field? "labels" (Json.ofDict .string) m.labels,
     Json.field? "annotations" (Json.ofDict .string) m.annotations,
     Json.field? "generation" Json.ofInt64 m.generation,
     Json.field? "resourceVersion" .string m.resourceVersion,
     Json.field? "finalizers" (Json.ofList .string) m.finalizers]

def moment? (j : Json) : Option Timestamp := j.string?.bind fun s => (Timestamp.ofText s).toOption

def owner? (j : Json) : Option Unit := do
  let ms ← Json.openMembers? j
  let _ ← Json.lastOf Json.string? "apiVersion" ms
  let _ ← Json.lastOf Json.bool? "blockOwnerDeletion" ms
  let _ ← Json.lastOf Json.bool? "controller" ms
  let _ ← Json.lastOf Json.string? "kind" ms
  let _ ← Json.lastOf Json.string? "name" ms
  let _ ← Json.lastOf Json.string? "uid" ms

/-- Anything legible; with the four values around it, it is nested below 128. -/
def fields? (j : Json) : Option Unit := if j.depth < 124 && j.isLegible then some () else none

def managedFields? (j : Json) : Option Unit := do
  let ms ← Json.openMembers? j
  let _ ← Json.lastOf Json.string? "apiVersion" ms
  let _ ← Json.lastOf Json.string? "fieldsType" ms
  let _ ← Json.lastOf fields? "fieldsV1" ms
  let _ ← Json.lastOf Json.string? "manager" ms
  let _ ← Json.lastOf Json.string? "operation" ms
  let _ ← Json.lastOf Json.string? "subresource" ms
  let _ ← Json.lastOf moment? "time" ms

/-- The members that are not kept are well formed. -/
def unkept? (ms : List (String × Json)) : Option Unit := do
  let _ ← Json.lastOf moment? "creationTimestamp" ms
  let _ ← Json.lastOf Json.int64? "deletionGracePeriodSeconds" ms
  let _ ← Json.lastOf moment? "deletionTimestamp" ms
  let _ ← Json.lastOf Json.string? "selfLink" ms
  let _ ← Json.lastOf (Json.list? owner?) "ownerReferences" ms
  let _ ← Json.lastOf (Json.list? managedFields?) "managedFields" ms

def ofJson? (j : Json) : Option Metadata := do
  let ms ← Json.openMembers? j
  unkept? ms
  return {
    name := ← Json.lastOf Json.string? "name" ms
    generateName := ← Json.lastOf Json.string? "generateName" ms
    «namespace» := ← Json.lastOf Json.string? "namespace" ms
    uid := ← Json.lastOf Json.string? "uid" ms
    labels := ← Json.lastOf (Json.dict? Json.string?) "labels" ms
    annotations := ← Json.lastOf (Json.dict? Json.string?) "annotations" ms
    generation := ← Json.lastOf Json.int64? "generation" ms
    resourceVersion := ← Json.lastOf Json.string? "resourceVersion" ms
    finalizers := ← Json.lastOf (Json.list? Json.string?) "finalizers" ms }

end Metadata

end ClusterProbe
