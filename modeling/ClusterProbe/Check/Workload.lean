/-
  ClusterProbe.Check.Workload — deployments that run exactly one pod.

  The deployment is waited for; its pods are listed once. The list may hold one pod
  only, and that pod has to be running.
-/

import ClusterProbe.Platform
import ClusterProbe.Session.Lifecycle

namespace ClusterProbe

/-- What a list of pods says about the deployment they belong to. -/
def singleRunning (ns name : String) : List Pod → Except ProbeError Pod
  | [pod] =>
    let phase := pod.phase?.getD "Unknown"
    if phase = Platform.runningPhase then .ok pod
    else .error (.notReady ("pod " ++ ns ++ "/" ++ pod.metadata.nameToShow ++ " of deployment " ++ name ++
      " is not running, it is " ++ phase))
  | pods => .error (.notReady ("expected exactly one pod for deployment " ++ ns ++ "/" ++ name ++
      ", found " ++ toString pods.length))

def checkSingleRunningPod [ApiTypes] (d : Deployment) : Session Pod :=
  let ns := d.metadata.namespaceOrEmpty
  let name := d.metadata.nameToShow
  match d.selector? with
  | none => throw (.precondition ("deployment " ++ ns ++ "/" ++ name ++ " has no matchLabels selector"))
  | some selector => do
    match ← Session.list (.within ns) selector with
    | .error e => throw (.request e)
    | .ok pods =>
      match singleRunning ns name pods with
      | .ok pod => return pod
      | .error e => throw e

/-- Waits for a deployment and checks its pod. -/
def checkDeployment [ApiTypes] (ns name : String) (b : Budget) : Session Pod := do
  let d : Deployment ← waitForObject (.within ns) name b
  let pod ← checkSingleRunningPod d
  Session.info ("Found pod " ++ ns ++ "/" ++ pod.metadata.nameToShow ++ " of deployment " ++ name ++
    " to be " ++ Platform.runningPhase)
  return pod

def checkMeshOperator [ApiTypes] : Session Pod :=
  checkDeployment Platform.operators Platform.meshOperatorDeployment .existence

def checkMesh [ApiTypes] : Session Pod :=
  checkDeployment Platform.ingressOperand Platform.meshDeployment .meshDeployment

end ClusterProbe
