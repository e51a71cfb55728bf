/-
  ClusterProbe.Resource.Kind — kinds of object and where their collections live.

  The objects of a kind are found under `/api` (the core group) or `/apis`, then group
  and version, then the namespace, if there is one, then the plural. A `Resource` is a
  type of objects of one kind, with their wire form. The kinds that extend a cluster
  all have one shape, metadata with a spec and perhaps a status (`Custom`).
-/

import ClusterProbe.Resource.ApiType
import ClusterProbe.Resource.Metadata

namespace ClusterProbe

structure Kind where
  group : String
  version : String
  name : String
  plural : String
  deriving DecidableEq, Repr

namespace Kind

def apiVersion (k : Kind) : String :=
  if k.group = "" then k.version else k.group ++ "/" ++ k.version

/-- The path of the collection, of one namespace or of the whole cluster. -/
def collection (k : Kind) (ns : Option String) : String :=
  (if k.group = "" then "/api/" else "/apis/") ++ k.apiVersion ++
    (match ns with
      | some ns => "/namespaces/" ++ ns
      | none => "") ++ "/" ++ k.plural

/-- How an object is called in messages. -/
def describe (k : Kind) (name : String) : String := k.name ++ " " ++ name

/-- The two members that tell an object's kind. -/
def fields (k : Kind) : List (Option (String × Json)) :=
  [Json.field "apiVersion" (.string k.apiVersion), Json.field "kind" (.string k.name)]

/-- Every member of the name, if there is one, is exactly this text. -/
def agrees (text : String) (k : String) (ms : List (String × Json)) : Bool :=
  (Json.named k ms).all fun m => m.2.string? == some text

/-- The members of an object that does not claim to be of another kind. -/
def openMembers? (k : Kind) (j : Json) : Option (List (String × Json)) := do
  let ms ← Json.openMembers? j
  if agrees k.apiVersion "apiVersion" ms && agrees k.name "kind" ms then some ms else none

/-- The same of an object that has other members than are read. -/
def members? [ApiTypes] (k : Kind) (t : ApiType) (read : List String) (j : Json) : Option (List (String × Json)) :=
  (k.openMembers? j).filter (t.accepts ("apiVersion" :: "kind" :: read))

end Kind

class Resource (K : Type) where
  kind : Kind
  metadata : K → Metadata
  toJson : K → Json
  ofJson? : Json → Option K

/-! ## Kinds that extend a cluster -/

structure Custom (Spec Status : Type) where
  metadata : Metadata
  spec : Spec
  status : Option Status
  deriving DecidableEq, Repr

namespace Custom

variable {Spec Status : Type}

def toJson (kind : Kind) (spec : Spec → Json) (status : Status → Json) (c : Custom Spec Status) : Json :=
  Json.record (kind.fields ++
    [Json.field "metadata" c.metadata.toJson,
     Json.field "spec" (spec c.spec),
     Json.field? "status" status c.status])

/-- What the object says of its own kind is not looked at. -/
def ofJson? (spec : Json → Option Spec) (status : Json → Option Status) (j : Json) :
    Option (Custom Spec Status) := do
  let ms ← Json.objectMembers? ["metadata", "spec", "status"] j
  return {
    metadata := ← Json.required Metadata.ofJson? "metadata" ms
    spec := ← Json.required spec "spec" ms
    status := ← Json.optional status "status" ms }

end Custom

end ClusterProbe
