/-
  ClusterProbe.Check.Retire — taking objects out of the cluster and seeing them gone.
-/

import ClusterProbe.Platform
import ClusterProbe.Resource.Cluster
import ClusterProbe.Resource.ControlPlane
import ClusterProbe.Resource.Definition
import ClusterProbe.Resource.Operators
import ClusterProbe.Session.Lifecycle

namespace ClusterProbe

def retireDefinition [ApiTypes] (name : String) : Session Unit :=
  deleteAndConfirm (K := Definition) .clusterWide name .existence .deletion

def retireSubscription (ns name : String) : Session Unit :=
  deleteAndConfirm (K := Subscription) (.within ns) name .existence .deletion

def retireControlPlane : Session Unit :=
  deleteAndConfirm (K := ControlPlane) (.within Platform.ingressOperand) Platform.controlPlane .existence
    .deletion

/-- Takes the administrator's role from the ingress operator's service account. -/
def revokeAdmin : Session Unit :=
  deleteAndConfirm (K := ClusterRoleBinding) .clusterWide Platform.adminBinding .existence .deletion

end ClusterProbe
