import NodeAtlas.Config.Basic
import NodeAtlas.Json.Record

/-!
# Configuration records

The JSON form of the configuration. Every section is a record in which each field may be missing,
and all fields are written.
-/

namespace NodeAtlas.Config

open NodeAtlas.Json

/-- Reads a truth value. -/
def asTruth : Json → Option Bool
  | .bool b => some b
  | _ => none

/-- Reads a port or `null`. -/
def asPortOrNull : Json → Option (Option UInt16)
  | .natural n => if n < UInt16.size then some (some (.ofNat n)) else none
  | .null => some none
  | _ => none

/-- Writes a port or `null`. -/
def portToJson (port : Option UInt16) : Json :=
  match port with
  | some p => natural p.toNat
  | none => null

namespace RateLimit

/-- The fields in their order. -/
def fields : List FieldNames := [["requests-per-second"], ["burst-size"]]

/-- Reads the limits on requests. -/
def ofJson? (v : Json) : Option RateLimit :=
  match slots? fields v with
  | some [perSecond, burst] => do
    return ⟨← required asUInt32 perSecond, ← required asUInt32 burst⟩
  | _ => none

/-- Writes the limits on requests. -/
def toJson (r : RateLimit) : Json :=
  record [("requests-per-second", natural r.requestsPerSecond.toNat),
    ("burst-size", natural r.burstSize.toNat)]

/-- Reads the limits on requests or `null`. -/
def orNull? : Json → Option (Option RateLimit)
  | .null => some none
  | v => (ofJson? v).map some

end RateLimit

namespace Global

/-- The fields in their order. -/
def fields : List FieldNames :=
  [["user"], ["password"], ["server"], ["port"], ["insecure-flag"], ["datacenters"],
    ["secret-name"], ["secret-namespace"], ["secrets-directory"], ["api-disable"], ["api-binding"],
    ["ip-family"], ["session-lifetime-secs"], ["rate-limit"]]

/-- Reads the shared settings. -/
def ofJson? (v : Json) : Option Global :=
  match slots? fields v with
  | some [user, password, server, port, insecure, datacenters, secretName, secretNamespace,
      secretsDirectory, apiDisable, apiBinding, ipFamily, sessionLifetime, rateLimit] => do
    let base : Global := {}
    return {
      user := ← withDefault base.user asText user
      password := ← withDefault base.password asText password
      server := ← withDefault base.server asText server
      port := ← withDefault base.port asPortOrNull port
      insecure := ← withDefault base.insecure asTruth insecure
      datacenters := ← withDefault base.datacenters asText datacenters
      secretName := ← withDefault base.secretName asText secretName
      secretNamespace := ← withDefault base.secretNamespace asText secretNamespace
      secretsDirectory := ← withDefault base.secretsDirectory asText secretsDirectory
      apiDisable := ← withDefault base.apiDisable asTruth apiDisable
      apiBinding := ← withDefault base.apiBinding asText apiBinding
      ipFamily := ← withDefault base.ipFamily asText ipFamily
      sessionLifetime := ← withDefault base.sessionLifetime asUInt64 sessionLifetime
      rateLimit := ← withDefault base.rateLimit RateLimit.orNull? rateLimit }
  | _ => none

/-- Writes the shared settings. -/
def toJson (g : Global) : Json :=
  record [("user", text g.user), ("password", text g.password), ("server", text g.server),
    ("port", portToJson g.port), ("insecure-flag", bool g.insecure),
    ("datacenters", text g.datacenters), ("secret-name", text g.secretName),
    ("secret-namespace", text g.secretNamespace), ("secrets-directory", text g.secretsDirectory),
    ("api-disable", bool g.apiDisable), ("api-binding", text g.apiBinding),
    ("ip-family", text g.ipFamily), ("session-lifetime-secs", natural g.sessionLifetime.toNat),
    ("rate-limit", (g.rateLimit.map RateLimit.toJson).getD null)]

end Global

namespace Section

/-- The fields in their order. -/
def fields : List FieldNames :=
  [["user"], ["password"], ["server"], ["port"], ["insecure-flag"], ["datacenters"],
    ["secret-name"], ["secret-namespace"], ["ip-family"]]

/-- Reads the section of one endpoint. -/
def ofJson? (v : Json) : Option Section :=
  match slots? fields v with
  | some [user, password, server, port, insecure, datacenters, secretName, secretNamespace,
      ipFamily] => do
    return {
      user := ← withDefault "" asText user
      password := ← withDefault "" asText password
      server := ← withDefault "" asText server
      port := ← withDefault none asPortOrNull port
      insecure := ← withDefault false asTruth insecure
      datacenters := ← withDefault "" asText datacenters
      secretName := ← withDefault "" asText secretName
      secretNamespace := ← withDefault "" asText secretNamespace
      ipFamily := ← withDefault "" asText ipFamily }
  | _ => none

/-- Writes the section of one endpoint. -/
def toJson (s : Section) : Json :=
  record [("user", text s.user), ("password", text s.password), ("server", text s.server),
    ("port", portToJson s.port), ("insecure-flag", bool s.insecure),
    ("datacenters", text s.datacenters), ("secret-name", text s.secretName),
    ("secret-namespace", text s.secretNamespace), ("ip-family", text s.ipFamily)]

end Section

namespace Nodes

/-- The fields in their order. -/
def fields : List FieldNames :=
  [["internal-network-subnet-cidr"], ["external-network-subnet-cidr"], ["internal-vm-network-name"],
    ["external-vm-network-name"]]

/-- Reads the choice of node addresses. -/
def ofJson? (v : Json) : Option Nodes :=
  match slots? fields v with
  | some [internalSubnet, externalSubnet, internalNetwork, externalNetwork] => do
    return ⟨← withDefault "" asText internalSubnet, ← withDefault "" asText externalSubnet,
      ← withDefault "" asText internalNetwork, ← withDefault "" asText externalNetwork⟩
  | _ => none

/-- Writes the choice of node addresses. -/
def toJson (n : Nodes) : Json :=
  record [("internal-network-subnet-cidr", text n.internalSubnet),
    ("external-network-subnet-cidr", text n.externalSubnet),
    ("internal-vm-network-name", text n.internalNetwork),
    ("external-vm-network-name", text n.externalNetwork)]

end Nodes

namespace Labels

/-- The fields in their order. -/
def fields : List FieldNames := [["zone"], ["region"]]

/-- Reads the tag categories. -/
def ofJson? (v : Json) : Option Labels :=
  match slots? fields v with
  | some [zone, region] => do
    return ⟨← withDefault "" asText zone, ← withDefault "" asText region⟩
  | _ => none

/-- Writes the tag categories. -/
def toJson (l : Labels) : Json := record [("zone", text l.zone), ("region", text l.region)]

end Labels

namespace Discovery

/-- The fields in their order. -/
def fields : List FieldNames :=
  [["pool-size"], ["queue-size"], ["connection-attempts"], ["retry-delay-ms"]]

/-- Reads the limits of a search. -/
def ofJson? (v : Json) : Option Discovery :=
  match slots? fields v with
  | some [poolSize, queueSize, connectionAttempts, retryDelay] => do
    let base : Discovery := {}
    return ⟨← withDefault base.poolSize asUInt64 poolSize,
      ← withDefault base.queueSize asUInt64 queueSize,
      ← withDefault base.connectionAttempts asUInt32 connectionAttempts,
      ← withDefault base.retryDelay asUInt64 retryDelay⟩
  | _ => none

/-- Writes the limits of a search. -/
def toJson (d : Discovery) : Json :=
  record [("pool-size", natural d.poolSize.toNat), ("queue-size", natural d.queueSize.toNat),
    ("connection-attempts", natural d.connectionAttempts.toNat),
    ("retry-delay-ms", natural d.retryDelay.toNat)]

end Discovery

/-- Adds the sections of tenants. The last section of a tenant stays. -/
def addSections (sections : Dict Section) : List (Option String × Json) → Option (Dict Section)
  | [] => some sections
  | (none, _) :: _ => none
  | (some tenant, v) :: ms =>
    match Section.ofJson? v with
    | none => none
    | some s => addSections (sections.insert tenant s) ms

/-- Reads the sections of endpoints by tenant. -/
def asSections : Json → Option (Dict Section)
  | .object members => addSections ∅ members
  | _ => none

/-- The fields of a configuration in their order. -/
def fields : List FieldNames := [["global"], ["icenters"], ["nodes"], ["labels"], ["discovery"]]

/-- Reads a configuration. -/
def ofJson? (v : Json) : Option Config :=
  match slots? fields v with
  | some [global, sections, nodes, labels, discovery] => do
    return {
      global := ← withDefault {} Global.ofJson? global
      sections := ← withDefault ∅ asSections sections
      nodes := ← withDefault {} Nodes.ofJson? nodes
      labels := ← withDefault {} Labels.ofJson? labels
      discovery := ← withDefault {} Discovery.ofJson? discovery }
  | _ => none

/-- Writes a configuration. -/
def toJson (c : Config) : Json :=
  record [("global", c.global.toJson),
    ("icenters", record (c.sections.entries.map fun e => (e.1, e.2.toJson))),
    ("nodes", c.nodes.toJson), ("labels", c.labels.toJson), ("discovery", c.discovery.toJson)]

end NodeAtlas.Config
