import NodeAtlas.Config.Resolve

/-!
# Tenants

Which tenants a configuration has, what must be right about each of them, and the endpoint that each of
them is then served by. A section that gives no address is served at the name of its tenant.
-/

namespace NodeAtlas.Net.Family

open NodeAtlas.Text

/-- The family that a token names, if it names one. -/
def named? (token : String) : Option Family :=
  [ipv4, ipv6].find? fun f => f.name == asciiLower (trim token)

/-- Every entry of a comma-separated list that is not blank names a family. -/
def Readable (list : String) : Prop :=
  ∀ token ∈ split ',' list, isBlankText token = false → (named? token).isSome = true

/-- The families of a list in the order in which they are first named, or IPv4 if none is. -/
def priority (list : String) : List Family :=
  match (split ',' list).filterMap named? with
  | [] => [ipv4]
  | fs => fs.eraseDups

end NodeAtlas.Net.Family

namespace NodeAtlas.Config

open NodeAtlas.Net NodeAtlas.Text

/-- A tenant of the configuration with its section. The server of the global settings is a tenant too,
unless a section has its name. -/
inductive Tenancy (c : Config) : String → Section → Prop where
  | configured {tenant : String} {s : Section} (h : c.sections.find? tenant = some s) :
      Tenancy c tenant s
  | global (hserver : c.global.server ≠ "") (hfree : c.sections.find? c.global.server = none) :
      Tenancy c c.global.server c.global.asSection

/-- A tenant that can be served, by what its own section and the global settings say. -/
structure Section.Valid (g : Global) (tenant : String) (s : Section) : Prop where
  name : isBlankText tenant = false
  host : validateHost (orElse s.server tenant) = .ok ()
  port : s.port.or g.port ≠ some 0
  families : Family.Readable s.ipFamily
  user : s.providesSecret = true ∨ g.providesSecret = true ∨ s.user ≠ "" ∨ g.user ≠ ""
  password : s.providesSecret = true ∨ g.providesSecret = true ∨ s.password ≠ "" ∨ g.password ≠ ""

/-- Where a secret is to be had, the section's own user and password stand as they are. -/
def Section.credentials (g : Global) (s : Section) : Credentials :=
  if s.providesSecret || g.providesSecret then ⟨s.user, s.password⟩
  else ⟨orElse s.user g.user, orElse s.password g.password⟩

def Section.secretRef (s : Section) : String :=
  if s.providesSecret then s.secretNamespace ++ "/" ++ s.secretName else globalSecretRef

def Section.endpoint (g : Global) (tenant : String) (s : Section) : Endpoint where
  tenant := tenant
  host := orElse s.server tenant
  port := (s.port.or g.port).getD defaultPort
  credentials := s.credentials g
  secretRef := s.secretRef
  insecure := s.insecure || g.insecure
  datacenters := Endpoint.datacenterList (orElse s.datacenters g.datacenters)
  families := Family.priority (orElse s.ipFamily g.ipFamily)

/-- A configuration without fault. -/
structure Resolvable (c : Config) : Prop where
  poolSize : 0 < c.discovery.poolSize
  queueSize : 0 < c.discovery.queueSize
  attempts : 0 < c.discovery.connectionAttempts
  families : Family.Readable c.global.ipFamily
  exists_tenant : ∃ tenant s, Tenancy c tenant s
  valid : ∀ tenant s, Tenancy c tenant s → s.Valid c.global tenant

end NodeAtlas.Config
