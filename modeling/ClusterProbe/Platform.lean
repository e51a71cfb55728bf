/-
  ClusterProbe.Platform — where the platform keeps the parts that are checked, what
  they are called, and how long each check may take.
-/

import ClusterProbe.Session.Poll

namespace ClusterProbe.Platform

/-! ## Namespaces -/

/-- Holds the mesh subscription and the mesh operator's pod. -/
def operators : String := "openshift-operators"
/-- Where the ingress operator itself runs. -/
def ingressOperator : String := "openshift-ingress-operator"
/-- Where the ingress operator puts what it runs. -/
def ingressOperand : String := "openshift-ingress"

/-! ## Names -/

def meshOperatorDeployment : String := "istio-operator"
def meshDeployment : String := "istiod-openshift-gateway"
def controlPlane : String := "openshift-gateway"
def ingressServiceAccount : String := "ingress-operator"
def adminRole : String := "cluster-admin"
def adminBinding : String := "cluster-admin-e2e"

/-! ## Gateways -/

/-- Admits the routes of every namespace to a listener. -/
def allNamespaces : String := "All"
def httpPort : Int32 := 80
def echoPort : Int32 := 8080

/-- The phase of a pod that has started and not ended. -/
def runningPhase : String := "Running"

end ClusterProbe.Platform

namespace ClusterProbe.Budget

/-! ## Budgets -/

def existence : Budget := ofSecs 1 30
def deletion : Budget := ofSecs 1 60
def definitionEstablished : Budget := ofSecs 1 30
def meshDeployment : Budget := ofSecs 1 60
def controlPlaneReady : Budget := ofSecs 1 180
def gatewayClassAccepted : Budget := ofSecs 2 120
def gatewayAccepted : Budget := ofSecs 1 60
def httpRouteAccepted : Budget := ofSecs 1 60
def dnsRecordPublished : Budget := ofSecs 1 60
def hostResolves : Budget := ofSecs 10 300
def httpAnswers : Budget := ofSecs 5 300

/-- The patience of a single HTTP request. -/
def httpRequest : Duration := .ofSecs 10

end ClusterProbe.Budget
