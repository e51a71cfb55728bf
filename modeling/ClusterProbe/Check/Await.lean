/-
  ClusterProbe.Check.Await — waiting until one object reports what it should.

  Each of these fetches an object until it passes and returns it as it was then. Only
  the version of a definition is returned in its place.
-/

import ClusterProbe.Platform
import ClusterProbe.RecordName
import ClusterProbe.Resource.ControlPlane
import ClusterProbe.Resource.Definition
import ClusterProbe.Resource.DnsRecord
import ClusterProbe.Resource.HttpRoute
import ClusterProbe.Resource.Operators
import ClusterProbe.Session.Lifecycle

namespace ClusterProbe

/-! ## Gateways and routes -/

def awaitGatewayClass (name : String) : Session GatewayClass := do
  let c ← pollObject .clusterWide name .gatewayClassAccepted accepted
  Session.info ("Found gatewayClass " ++ name ++ " " ++ acceptedType)
  return c

def awaitGateway (ns name : String) : Session Gateway := do
  let g ← pollObject (.within ns) name .gatewayAccepted accepted
  Session.info ("Found gateway " ++ ns ++ "/" ++ name ++ " " ++ acceptedType)
  return g

def awaitHttpRoute (ns name : String) (gateway : Gateway) : Session HttpRoute :=
  match gateway.reference with
  | .error e => throw e
  | .ok (gatewayName, gatewayNamespace) => do
    let r ← pollObject (.within ns) name .httpRouteAccepted HttpRoute.attached
    Session.info ("Found httpRoute " ++ ns ++ "/" ++ name ++ " " ++ acceptedType ++ " and " ++
      resolvedRefsType ++ " on gateway " ++ gatewayNamespace ++ "/" ++ gatewayName)
    return r

/-! ## DNS records -/

def awaitDnsRecordWithin (ns name : String) (b : Budget) : Session DnsRecord := do
  let r ← pollObject (.within ns) name b DnsRecord.published
  Session.info ("Found DNSRecord " ++ ns ++ "/" ++ name ++ " " ++ publishedType ++ " for " ++ r.spec.dnsName)
  return r

def awaitDnsRecord (ns name : String) : Session DnsRecord := awaitDnsRecordWithin ns name .dnsRecordPublished

/-! ## Definitions and operators -/

def awaitDefinition [ApiTypes] (name : String) : Session (Option String) := do
  let d ← pollObject .clusterWide name .definitionEstablished Definition.established
  let version := d.servedVersion?
  Session.info ("CRD " ++ name ++ " is " ++ Definition.establishedType ++ ", served version " ++
    version.getD "<none>")
  return version

def awaitSubscription (ns name : String) : Session Subscription := do
  let s ← waitForObject (.within ns) name .existence
  Session.info ("Found subscription " ++ s.metadata.nameToShow ++ " at installed version " ++
    s.installedCsv?.getD "<none>")
  return s

def awaitCatalogSource (ns name : String) : Session CatalogSource := do
  let c ← pollObject (.within ns) name .existence CatalogSource.ready
  Session.info ("Found catalogSource " ++ c.metadata.nameToShow ++ " with last observed state " ++
    CatalogSource.readyState)
  return c

def awaitControlPlane : Session ControlPlane := do
  let c ← pollObject (.within Platform.ingressOperand) Platform.controlPlane .controlPlaneReady
    ControlPlane.ready
  Session.info ("Found ServiceMeshControlPlane " ++ Platform.ingressOperand ++ "/" ++
    Platform.controlPlane ++ " with ready components: " ++ Text.quoteAll (c.components "ready"))
  return c

end ClusterProbe
