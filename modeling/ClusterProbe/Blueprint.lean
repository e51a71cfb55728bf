/-
  ClusterProbe.Blueprint — the objects that checks put into a cluster.

  A gateway has one HTTP listener for every host below a domain; a route leads one
  host to the HTTP port of a service; the echo pod answers every request with
  `200 OK`, and the echo service offers it under the HTTP port.
-/

import ClusterProbe.Platform
import ClusterProbe.Resource.Cluster
import ClusterProbe.Resource.HttpRoute
import ClusterProbe.Resource.Workload

namespace ClusterProbe

namespace GatewayClass

def ofController (name controller : String) : GatewayClass :=
  { metadata := { name := name }, spec := ⟨controller, none⟩, status := none }

end GatewayClass

namespace Gateway

/-- A gateway for the hosts below `domain`, open to the routes of the namespaces that
`routesFrom` selects. -/
def wildcard (name ns gatewayClass routesFrom domain : String) : Gateway :=
  { metadata := { name := name, «namespace» := ns }
    spec := {
      gatewayClassName := gatewayClass
      listeners := [{
        name := "http"
        hostname := "*." ++ domain
        port := Platform.httpPort
        protocol := "HTTP"
        allowedRoutes := some ⟨some ⟨some routesFrom⟩⟩ }] }
    status := none }

/-- A gateway open to the routes of every namespace. -/
def openWildcard (name ns gatewayClass domain : String) : Gateway :=
  wildcard name ns gatewayClass Platform.allNamespaces domain

end Gateway

namespace HttpRoute

/-- A route from a host of the parent gateway to a service. -/
def forwarding (name ns parent parentNamespace hostname backend : String) : HttpRoute :=
  { metadata := { name := name, «namespace» := ns }
    spec := {
      parentRefs := [{ «namespace» := some parentNamespace, name := parent }]
      hostnames := [hostname]
      rules := [⟨[⟨backend, some Platform.httpPort⟩]⟩] }
    status := none }

end HttpRoute

namespace Pod

/-- What the echo container runs for each connection. -/
def echoScript : String :=
  "EXEC:'/bin/bash -c \"printf \\\"HTTP/1.0 200 OK\\r\\n\\r\\n\\\"; sed -e \\\"/^\\r/q\\\"\"'"

def echo (name ns image : String) : Pod :=
  { metadata := { name := name, «namespace» := ns, labels := Dict.ofList [("app", name)] }
    spec := some ⟨[{
      name := "echo"
      image := image
      command := some ["/bin/socat"]
      args := some ["TCP4-LISTEN:" ++ toString Platform.echoPort.toInt ++ ",reuseaddr,fork", echoScript]
      ports := some [⟨Platform.echoPort, some "TCP"⟩]
      securityContext := some {
        allowPrivilegeEscalation := some false
        capabilities := some ⟨some ["ALL"]⟩
        runAsNonRoot := some true
        seccompProfile := some ⟨"RuntimeDefault"⟩ } }]⟩
    status := none }

end Pod

namespace Service

/-- Offers the pods with these labels; the service carries the labels too. -/
def echo (name ns : String) (labels : Dict String) : Service :=
  { metadata := { name := name, «namespace» := ns, labels := labels }
    spec := some {
      selector := some labels
      ports := some [{
        name := some "http"
        port := Platform.httpPort
        protocol := some "TCP"
        targetPort := some (.number Platform.echoPort) }] } }

end Service

namespace ClusterRoleBinding

/-- Gives a role, cluster-wide, to a service account. -/
def toServiceAccount (name role account accountNamespace : String) : ClusterRoleBinding :=
  { metadata := { name := name }
    roleRef := ⟨"rbac.authorization.k8s.io", "ClusterRole", role⟩
    subjects := some [⟨"ServiceAccount", account, some accountNamespace, none⟩] }

end ClusterRoleBinding

end ClusterProbe
