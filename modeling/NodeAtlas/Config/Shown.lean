import NodeAtlas.Config.Basic
import NodeAtlas.Text.Shown

/-!
# The configuration in logs

The texts that stand for a configuration and its sections in logs.
-/

namespace NodeAtlas.Config

open NodeAtlas.Text

/-- The limits on requests as shown in logs. -/
def RateLimit.describe (r : RateLimit) : String :=
  shownRecord "RateLimitConfig" [("requests_per_second", toString r.requestsPerSecond.toNat),
    ("burst_size", toString r.burstSize.toNat)]

/-- A port as shown in logs. -/
def describePort (port : Option UInt16) : String :=
  shownOption (port.map fun p => toString p.toNat)

/-- The shared settings as shown in logs. -/
def Global.describe (g : Global) : String :=
  shownRecord "GlobalConfig" [("user", quoted g.user), ("password", quoted g.password),
    ("server", quoted g.server), ("port", describePort g.port),
    ("insecure_flag", shownTruth g.insecure), ("datacenters", quoted g.datacenters),
    ("secret_name", quoted g.secretName), ("secret_namespace", quoted g.secretNamespace),
    ("secrets_directory", quoted g.secretsDirectory), ("api_disable", shownTruth g.apiDisable),
    ("api_binding", quoted g.apiBinding), ("ip_family", quoted g.ipFamily),
    ("session_lifetime_secs", toString g.sessionLifetime.toNat),
    ("rate_limit", shownOption (g.rateLimit.map RateLimit.describe))]

/-- The section of one endpoint as shown in logs. -/
def Section.describe (s : Section) : String :=
  shownRecord "ICenterConfig" [("user", quoted s.user), ("password", quoted s.password),
    ("server", quoted s.server), ("port", describePort s.port),
    ("insecure_flag", shownTruth s.insecure), ("datacenters", quoted s.datacenters),
    ("secret_name", quoted s.secretName), ("secret_namespace", quoted s.secretNamespace),
    ("ip_family", quoted s.ipFamily)]

/-- The choice of node addresses as shown in logs. -/
def Nodes.describe (n : Nodes) : String :=
  shownRecord "NodesConfig" [("internal_network_subnet_cidr", quoted n.internalSubnet),
    ("external_network_subnet_cidr", quoted n.externalSubnet),
    ("internal_vm_network_name", quoted n.internalNetwork),
    ("external_vm_network_name", quoted n.externalNetwork)]

/-- The tag categories as shown in logs. -/
def Labels.describe (l : Labels) : String :=
  shownRecord "LabelsConfig" [("zone", quoted l.zone), ("region", quoted l.region)]

/-- The limits of a search as shown in logs. -/
def Discovery.describe (d : Discovery) : String :=
  shownRecord "DiscoveryConfig" [("pool_size", toString d.poolSize.toNat),
    ("queue_size", toString d.queueSize.toNat),
    ("connection_attempts", toString d.connectionAttempts.toNat),
    ("retry_delay_ms", toString d.retryDelay.toNat)]

/-- A configuration as shown in logs. -/
def describe (c : Config) : String :=
  shownRecord "CloudConfig" [("global", c.global.describe),
    ("icenters", shownDict (c.sections.entries.map fun e => (e.1, e.2.describe))),
    ("nodes", c.nodes.describe), ("labels", c.labels.describe),
    ("discovery", c.discovery.describe)]

end NodeAtlas.Config
