import NodeAtlas.Credentials
import NodeAtlas.Net.Family
import NodeAtlas.Net.Host
import NodeAtlas.Net.Port
import NodeAtlas.Net.Url.Basic

/-!
# Endpoints

The settings of one tenant: where its endpoint is, how to log in, and which of its datacenters and
address families count.
-/

namespace NodeAtlas

open NodeAtlas.Text NodeAtlas.Net

/-- The secret reference of endpoints that have none of their own. -/
def globalSecretRef : String := "Global"

/-- The settings of one tenant's endpoint. -/
structure Endpoint where
  tenant : String
  /-- The address of the endpoint, under which results name it. -/
  host : String
  port : UInt16
  /-- The credentials to begin with. -/
  credentials : Credentials
  /-- The credential manager to ask when credentials are refused. -/
  secretRef : String
  /-- Certificates are not checked. -/
  insecure : Bool
  /-- The names of the datacenters to search; none means all. -/
  datacenters : List String
  /-- The address families in order of priority. -/
  families : List Family
  deriving DecidableEq, Repr

namespace Endpoint

/-- Turns the outcome of a validator into a result. -/
def checked : Except ValidationError Unit → Result Unit
  | .ok () => .ok ()
  | .error e => .error (.validation e)

/-- An endpoint with default settings. Tenant, host and port are checked in this order. -/
def create (tenant host : String) (port : UInt16) : Result Endpoint := do
  if isBlankText tenant then
    throw (.invalidConfiguration "tenant reference cannot be empty")
  checked (validateHost host)
  checked (validatePort port)
  return ⟨tenant, host, port, .none, globalSecretRef, false, [], [.ipv4]⟩

/-- The trimmed entries of a comma-separated list, blank ones left out. -/
def datacenterList (s : String) : List String :=
  ((split ',' s).map trim).filter fun name => !name.isEmpty

/-- The endpoint with the datacenters of a comma-separated list. -/
def withDatacenters (e : Endpoint) (list : String) : Endpoint :=
  { e with datacenters := datacenterList list }

/-- The endpoint with the given address families, unless there are none. -/
def withFamilies (e : Endpoint) (families : List Family) : Endpoint :=
  if families.isEmpty then e else { e with families := families }

/-- The host as it stands in a URL. -/
def authority (e : Endpoint) : String := hostAuthority e.host

/-- The address of the endpoint's API. -/
def baseUrl (e : Endpoint) : Result Url :=
  let hostAndPort := e.authority ++ ":" ++ toString e.port.toNat
  match Url.ofAuthority .https hostAndPort with
  | .ok u => .ok u
  | .error fault =>
    .error (.invalidConfiguration
      ("invalid endpoint URL 'https://" ++ hostAndPort ++ "/': " ++ fault.message))

/-- The endpoint as shown in logs. -/
def describe (e : Endpoint) : String :=
  shownRecord "EndpointConfig" [("tenant_ref", quoted e.tenant),
    ("host", shownAs "EndpointHost" (quoted e.host)),
    ("port", shownAs "EndpointPort" (toString e.port.toNat)),
    ("credentials", e.credentials.describe), ("secret_ref", quoted e.secretRef),
    ("insecure", shownTruth e.insecure), ("datacenters", shownList (e.datacenters.map quoted)),
    ("ip_families", shownList (e.families.map Family.word))]

end Endpoint

end NodeAtlas
