import NodeAtlas.Dict
import NodeAtlas.Net.Port

/-!
# Configuration

The sections of the provider's configuration. A field that is left empty falls back to a global
setting or a default when the configuration is resolved.
-/

namespace NodeAtlas.Config

/-- The limits on requests to one endpoint. -/
structure RateLimit where
  requestsPerSecond : UInt32
  /-- Requests that may come at once. -/
  burstSize : UInt32
  deriving DecidableEq, Repr, Inhabited

/-- Settings shared by all endpoints. -/
structure Global where
  user : String := ""
  password : String := ""
  /-- The address of a single endpoint, apart from the endpoint sections. -/
  server : String := ""
  port : Option UInt16 := none
  /-- Certificates are not checked. -/
  insecure : Bool := false
  /-- The comma-separated datacenters to search. -/
  datacenters : String := ""
  /-- The name of a cluster secret with credentials. -/
  secretName : String := ""
  secretNamespace : String := ""
  /-- A directory with credentials. -/
  secretsDirectory : String := ""
  /-- The API for exports is off. -/
  apiDisable : Bool := false
  /-- The address that API listens on. -/
  apiBinding : String := ":43001"
  /-- The comma-separated address families. -/
  ipFamily : String := "ipv4"
  /-- The lifetime of a session in seconds. -/
  sessionLifetime : UInt64 := 1800
  /-- The limits on requests. -/
  rateLimit : Option RateLimit := none
  deriving DecidableEq, Repr, Inhabited

/-- Exactly one source of secrets is configured: a cluster secret with name and namespace, or a
directory. -/
def Global.providesSecret (g : Global) : Bool :=
  let clusterSecret := !g.secretName.isEmpty && !g.secretNamespace.isEmpty
  let noClusterSecret := g.secretName.isEmpty && g.secretNamespace.isEmpty
  let directory := !g.secretsDirectory.isEmpty
  (clusterSecret && !directory) || (noClusterSecret && directory)

/-- The section of one endpoint. -/
structure Section where
  user : String := ""
  password : String := ""
  /-- The address, if it is not the name of the section. -/
  server : String := ""
  port : Option UInt16 := none
  /-- Certificates are not checked. -/
  insecure : Bool := false
  /-- The comma-separated datacenters to search. -/
  datacenters : String := ""
  /-- The name of a cluster secret with credentials. -/
  secretName : String := ""
  secretNamespace : String := ""
  /-- The comma-separated address families. -/
  ipFamily : String := ""
  deriving DecidableEq, Repr, Inhabited

/-- The section names a cluster secret completely. -/
def Section.providesSecret (s : Section) : Bool :=
  !s.secretName.isEmpty && !s.secretNamespace.isEmpty

/-- Which addresses of a machine become node addresses. -/
structure Nodes where
  /-- The subnet of internal addresses. -/
  internalSubnet : String := ""
  /-- The subnet of external addresses. -/
  externalSubnet : String := ""
  /-- The network of internal addresses. -/
  internalNetwork : String := ""
  /-- The network of external addresses. -/
  externalNetwork : String := ""
  deriving DecidableEq, Repr, Inhabited

/-- The tag categories that carry zone and region. -/
structure Labels where
  /-- The category of zones. -/
  zone : String := ""
  /-- The category of regions. -/
  region : String := ""
  deriving DecidableEq, Repr, Inhabited

/-- The limits of a search. -/
structure Discovery where
  /-- The number of workers. -/
  poolSize : UInt64 := 8
  /-- The number of tasks that may wait. -/
  queueSize : UInt64 := 80
  /-- How often an endpoint is tried. -/
  connectionAttempts : UInt32 := 3
  /-- The pause between two tries in milliseconds. -/
  retryDelay : UInt64 := 1000
  deriving DecidableEq, Repr, Inhabited

end NodeAtlas.Config

namespace NodeAtlas

/-- The whole configuration. -/
structure Config where
  /-- The shared settings. -/
  global : Config.Global := {}
  /-- The endpoint sections by tenant. -/
  sections : Dict Config.Section := ∅
  /-- The choice of node addresses. -/
  nodes : Config.Nodes := {}
  /-- The tag categories. -/
  labels : Config.Labels := {}
  /-- The limits of a search. -/
  discovery : Config.Discovery := {}
  deriving Inhabited

end NodeAtlas
