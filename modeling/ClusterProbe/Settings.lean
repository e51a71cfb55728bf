/-
  ClusterProbe.Settings — what a run of the suite is told by its environment.

  Only the gateway domain has to be set. A variable that is not UTF-8 counts as unset;
  an empty one keeps its empty value, except that an empty path of a client
  configuration means that there is none.
-/

import ClusterProbe.Text.Utf8

namespace ClusterProbe

structure Settings where
  /-- The domain that gateways listen below. -/
  gatewayDomain : String
  /-- The client configuration; inferred when there is none. -/
  kubeconfig : Option String
  gatewayClass : String
  gatewayController : String
  «namespace» : String
  echoImage : String
  deriving DecidableEq, Repr

/-- Variables by name. -/
abbrev Environment := List (String × List UInt8)

namespace Environment

/-- The text of a variable. -/
def get? (env : Environment) (name : String) : Option String :=
  (env.lookup name).bind fun bs => (Text.decode bs).toOption

end Environment

/-- A variable that has to be set and is not. -/
structure UnsetVariable where
  name : String
  deriving DecidableEq, Repr

namespace UnsetVariable

def message (u : UnsetVariable) : String := u.name ++ " environment variable not set"

end UnsetVariable

namespace Settings

def ofEnvironment (env : Environment) : Except UnsetVariable Settings :=
  match env.get? "E2E_GATEWAY_DOMAIN" with
  | none => .error ⟨"E2E_GATEWAY_DOMAIN"⟩
  | some domain => .ok {
      gatewayDomain := domain
      kubeconfig := (env.get? "E2E_KUBECONFIG").filter (· ≠ "")
      gatewayClass := (env.get? "E2E_GATEWAY_CLASS").getD "openshift-default"
      gatewayController := (env.get? "E2E_GATEWAY_CONTROLLER").getD "openshift.io/gateway-controller"
      «namespace» := (env.get? "E2E_NAMESPACE").getD "gateway-e2e"
      echoImage := (env.get? "E2E_ECHO_IMAGE").getD
        "image-registry.openshift-image-registry.svc:5000/openshift/tools:latest" }

end Settings

end ClusterProbe
