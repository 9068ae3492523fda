import NodeAtlas.Config.Basic
import NodeAtlas.Endpoint

/-!
# Resolution

The endpoints that a configuration describes. Every tenant takes its settings from its own section
and, where that is silent, from the global ones.
-/

namespace NodeAtlas.Config

open NodeAtlas.Net NodeAtlas.Text

/-- The value, or the fallback for an empty one. -/
def orElse (value fallback : String) : String :=
  if value.isEmpty then fallback else value

/-- The limits of a search are positive. -/
def checkDiscovery (d : Discovery) : Result Unit :=
  if d.poolSize = 0 ∨ d.queueSize = 0 then
    .error (.invalidConfiguration "discovery pool-size and queue-size must be > 0")
  else if d.connectionAttempts = 0 then
    .error (.invalidConfiguration "discovery connection-attempts must be > 0")
  else .ok ()

/-- The family list of endpoints that have none of their own. -/
def Global.familyList (g : Global) : String := orElse g.ipFamily "ipv4"

/-- The section of the single endpoint in the global settings. -/
def Global.asSection (g : Global) : Section :=
  { user := g.user
    password := g.password
    server := g.server
    port := g.port
    insecure := g.insecure
    datacenters := g.datacenters
    ipFamily := g.familyList }

/-- All sections: the configured ones, and one for the single endpoint in the global settings unless
a section has its name. -/
def allSections (c : Config) : Dict Section :=
  if c.global.server.isEmpty || c.sections.contains c.global.server then c.sections
  else c.sections.insert c.global.server c.global.asSection

/-- The credentials of a section without secret, completed by the global ones. -/
def plainCredentials (g : Global) (tenant : String) (s : Section) : Result Credentials :=
  let user := orElse s.user g.user
  let password := orElse s.password g.password
  if user.isEmpty then
    .error (.invalidConfiguration ("username is missing for iCenter " ++ tenant))
  else if password.isEmpty then
    .error (.invalidConfiguration ("password is missing for iCenter " ++ tenant))
  else .ok ⟨user, password⟩

/-- The credentials to begin with and the secret reference of a section. -/
def access (g : Global) (tenant : String) (s : Section) : Result (Credentials × String) :=
  if s.providesSecret then
    .ok (⟨s.user, s.password⟩, s.secretNamespace ++ "/" ++ s.secretName)
  else if g.providesSecret then .ok (⟨s.user, s.password⟩, globalSecretRef)
  else
    match plainCredentials g tenant s with
    | .error e => .error e
    | .ok c => .ok (c, globalSecretRef)

def resolveSection (g : Global) (tenant : String) (s : Section) : Result Endpoint := do
  if isBlankText tenant then
    throw (.invalidConfiguration "iCenter section with an empty name")
  let (credentials, secretRef) ← access g tenant s
  let families ← Family.parseList (orElse s.ipFamily g.familyList)
  let e ← Endpoint.create tenant (orElse s.server tenant) ((s.port.or g.port).getD defaultPort)
  let e := { e with
    credentials := credentials
    secretRef := secretRef
    insecure := s.insecure || g.insecure }
  return (e.withDatacenters (orElse s.datacenters g.datacenters)).withFamilies families

/-- The endpoints of the sections, in their order, or the first fault. -/
def resolveAll (g : Global) : List (String × Section) → Result (List Endpoint)
  | [] => .ok []
  | (tenant, s) :: rest =>
    match resolveSection g tenant s with
    | .error e => .error e
    | .ok e =>
      match resolveAll g rest with
      | .error e => .error e
      | .ok es => .ok (e :: es)

/-- The endpoints of a configuration in the order of their tenants. -/
def resolve (c : Config) : Result (List Endpoint) := do
  checkDiscovery c.discovery
  let _ ← Family.parseList c.global.familyList
  let sections := allSections c
  if sections.isEmpty then
    throw (.invalidConfiguration "no iCenter servers were configured")
  resolveAll c.global sections.entries

end NodeAtlas.Config
