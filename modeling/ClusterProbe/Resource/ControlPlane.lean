/-
  ClusterProbe.Resource.ControlPlane — service mesh control planes.

  A control plane lists its components by state: ready, pending and unready. It is
  ready when it reports states at all, none of its components is pending or unready,
  and at least one is ready.
-/

import ClusterProbe.Readiness
import ClusterProbe.Resource.Kind
import ClusterProbe.Text.Quoted

namespace ClusterProbe

structure ControlPlaneSpec where
  version : Option String
  mode : Option String
  deriving DecidableEq, Repr

/-- Component names by state; nothing before the first report. -/
structure ComponentStates where
  components : Option (Dict (List String))
  deriving DecidableEq, Repr

structure ControlPlaneStatus where
  readiness : ComponentStates
  deriving DecidableEq, Repr

abbrev ControlPlane := Custom ControlPlaneSpec ControlPlaneStatus

/-! ## Wire form -/

namespace ControlPlaneSpec

def toJson (s : ControlPlaneSpec) : Json :=
  Json.record [Json.field? "version" .string s.version, Json.field? "mode" .string s.mode]

def ofJson? (j : Json) : Option ControlPlaneSpec := do
  let ms ← Json.members? ["version", "mode"] j
  return {
    version := ← Json.optional Json.string? "version" ms
    mode := ← Json.optional Json.string? "mode" ms }

end ControlPlaneSpec

namespace ComponentStates

def toJson (s : ComponentStates) : Json :=
  Json.record [Json.field? "components" (Json.ofDict (Json.ofList .string)) s.components]

def ofJson? (j : Json) : Option ComponentStates := do
  let ms ← Json.members? ["components"] j
  return ⟨← Json.optional (Json.dict? (Json.list? Json.string?)) "components" ms⟩

end ComponentStates

namespace ControlPlaneStatus

def toJson (s : ControlPlaneStatus) : Json := Json.record [Json.field "readiness" s.readiness.toJson]

def ofJson? (j : Json) : Option ControlPlaneStatus := do
  let ms ← Json.members? ["readiness"] j
  return ⟨← Json.withDefault ⟨none⟩ ComponentStates.ofJson? "readiness" ms⟩

end ControlPlaneStatus

namespace ControlPlane

def kind : Kind := ⟨"maistra.io", "v2", "ServiceMeshControlPlane", "servicemeshcontrolplanes"⟩

end ControlPlane

instance : Resource ControlPlane where
  kind := ControlPlane.kind
  metadata := Custom.metadata
  toJson := Custom.toJson ControlPlane.kind ControlPlaneSpec.toJson ControlPlaneStatus.toJson
  ofJson? := Custom.ofJson? ControlPlaneSpec.ofJson? ControlPlaneStatus.ofJson?

/-! ## Being ready -/

namespace ControlPlane

def states? (c : ControlPlane) : Option (Dict (List String)) := c.status.bind (·.readiness.components)

def hasReadiness (c : ControlPlane) : Bool := c.states?.isSome

/-- The components in a state; none where the state is not listed. -/
def components (c : ControlPlane) (state : String) : List String := (c.states?.bind (·.find? state)).getD []

def ready (c : ControlPlane) : Readiness Unit :=
  if !c.hasReadiness then .pending "could not determine its readiness"
  else
    let pending := c.components "pending"
    let unready := c.components "unready"
    if !pending.isEmpty || !unready.isEmpty then
      .pending ("not ready, pending: " ++ Text.quoteAll pending ++ ", unready: " ++ Text.quoteAll unready)
    else if (c.components "ready").isEmpty then .pending "no ready components reported"
    else .ready ()

end ControlPlane

end ClusterProbe
