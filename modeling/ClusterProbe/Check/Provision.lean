/-
  ClusterProbe.Check.Provision — putting objects into the cluster.

  Everything here creates or finds what is already there, and never waits. A route
  comes with an echo pod and a service in front of it; the service looks for the
  labels that the server's pod has, which are those of an older pod if one was there.
-/

import ClusterProbe.Blueprint
import ClusterProbe.RecordName
import ClusterProbe.Session.Lifecycle

namespace ClusterProbe

def createGatewayClass (name controller : String) : Session GatewayClass :=
  createOrGet .clusterWide (GatewayClass.ofController name controller)

def createGateway (gatewayClass : GatewayClass) (name ns domain : String) : Session Gateway :=
  createOrGet (.within ns) (Gateway.openWildcard name ns gatewayClass.metadata.nameToShow domain)

/-- The gateway's name and namespace, which a route needs. -/
def requireReference (g : Gateway) : Session (String × String) :=
  match g.reference with
  | .ok r => return r
  | .error e => throw e

def createHttpRoute [ApiTypes] (ns name hostname backend : String) (gateway : Gateway) (image : String) :
    Session HttpRoute := do
  let (gatewayName, gatewayNamespace) ← requireReference gateway
  let pod ← createOrGet (.within ns) (Pod.echo backend ns image)
  let _ ← createOrGet (.within ns) (Service.echo backend ns pod.metadata.labelsOrEmpty)
  createOrGet (.within ns) (HttpRoute.forwarding name ns gatewayName gatewayNamespace hostname backend)

/-- Gives the administrator's role to the ingress operator's service account. -/
def grantAdmin : Session ClusterRoleBinding := do
  let binding ← createOrGet .clusterWide (ClusterRoleBinding.toServiceAccount Platform.adminBinding
    Platform.adminRole Platform.ingressServiceAccount Platform.ingressOperator)
  Session.info ("Granted " ++ Platform.adminRole ++ " to " ++ Platform.ingressOperator ++ "/" ++
    Platform.ingressServiceAccount)
  return binding

end ClusterProbe
