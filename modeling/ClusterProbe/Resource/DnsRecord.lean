/-
  ClusterProbe.Resource.DnsRecord — DNS records and the zones they are published in.

  One zone that reports `Published` as true is enough; otherwise the zone looked at
  last tells what is missing.
-/

import ClusterProbe.Condition
import ClusterProbe.Readiness
import ClusterProbe.Resource.Kind

namespace ClusterProbe

structure DnsRecordSpec where
  dnsName : String
  recordType : String
  targets : List String
  recordTtl : Int64
  deriving DecidableEq, Repr

structure DnsZone where
  id : Option String
  tags : Dict String
  deriving DecidableEq, Repr

structure ZoneStatus where
  dnsZone : DnsZone
  conditions : List Condition
  deriving DecidableEq, Repr

structure DnsRecordStatus where
  zones : List ZoneStatus
  observedGeneration : Option Int64
  deriving DecidableEq, Repr

abbrev DnsRecord := Custom DnsRecordSpec DnsRecordStatus

/-! ## Wire form -/

namespace DnsRecordSpec

def toJson (s : DnsRecordSpec) : Json :=
  Json.record
    [Json.field "dnsName" (.string s.dnsName),
     Json.field "recordType" (.string s.recordType),
     Json.field "targets" (Json.ofList .string s.targets),
     Json.field "recordTTL" (Json.ofInt64 s.recordTtl)]

def ofJson? (j : Json) : Option DnsRecordSpec := do
  let ms ← Json.members? ["dnsName", "recordType", "targets", "recordTTL"] j
  return {
    dnsName := ← Json.withDefault "" Json.string? "dnsName" ms
    recordType := ← Json.withDefault "" Json.string? "recordType" ms
    targets := ← Json.withDefault [] (Json.list? Json.string?) "targets" ms
    recordTtl := ← Json.withDefault 0 Json.int64? "recordTTL" ms }

end DnsRecordSpec

namespace DnsZone

/-- Tags are written only if there are some. -/
def toJson (z : DnsZone) : Json :=
  Json.record
    [Json.field? "id" .string z.id,
     Json.field? "tags" (Json.ofDict .string) (if z.tags.isEmpty then none else some z.tags)]

def ofJson? (j : Json) : Option DnsZone := do
  let ms ← Json.members? ["id", "tags"] j
  return {
    id := ← Json.optional Json.string? "id" ms
    tags := ← Json.withDefault .empty (Json.dict? Json.string?) "tags" ms }

end DnsZone

namespace ZoneStatus

def toJson (z : ZoneStatus) : Json :=
  Json.record
    [Json.field "dnsZone" z.dnsZone.toJson,
     Json.field "conditions" (Json.ofList Condition.toJson z.conditions)]

def ofJson? (j : Json) : Option ZoneStatus := do
  let ms ← Json.members? ["dnsZone", "conditions"] j
  return {
    dnsZone := ← Json.withDefault ⟨none, .empty⟩ DnsZone.ofJson? "dnsZone" ms
    conditions := ← Json.withDefault [] (Json.list? Condition.ofJson?) "conditions" ms }

end ZoneStatus

namespace DnsRecordStatus

def toJson (s : DnsRecordStatus) : Json :=
  Json.record
    [Json.field "zones" (Json.ofList ZoneStatus.toJson s.zones),
     Json.field? "observedGeneration" Json.ofInt64 s.observedGeneration]

def ofJson? (j : Json) : Option DnsRecordStatus := do
  let ms ← Json.members? ["zones", "observedGeneration"] j
  return {
    zones := ← Json.withDefault [] (Json.list? ZoneStatus.ofJson?) "zones" ms
    observedGeneration := ← Json.optional Json.int64? "observedGeneration" ms }

end DnsRecordStatus

namespace DnsRecord

def kind : Kind := ⟨"ingress.operator.openshift.io", "v1", "DNSRecord", "dnsrecords"⟩

end DnsRecord

instance : Resource DnsRecord where
  kind := DnsRecord.kind
  metadata := Custom.metadata
  toJson := Custom.toJson DnsRecord.kind DnsRecordSpec.toJson DnsRecordStatus.toJson
  ofJson? := Custom.ofJson? DnsRecordSpec.ofJson? DnsRecordStatus.ofJson?

/-! ## Being published -/

/-- The condition that tells whether a zone serves the record. -/
def publishedType : String := "Published"

namespace DnsRecord

def zones (r : DnsRecord) : List ZoneStatus := (r.status.map (·.zones)).getD []

def unpublished (z : ZoneStatus) : Option String := Condition.unmet? z.conditions publishedType

/-- Ready at the first zone that serves the record; `last` is what the zone before
said. -/
def publishedIn (last : String) : List ZoneStatus → Readiness Unit
  | [] => .pending last
  | z :: r =>
    match unpublished z with
    | none => .ready ()
    | some m => publishedIn m r

def published (r : DnsRecord) : Readiness Unit := publishedIn "no zones reported" r.zones

end DnsRecord

end ClusterProbe
