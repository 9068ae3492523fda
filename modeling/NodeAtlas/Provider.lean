import NodeAtlas.Atlas.Resolver
import NodeAtlas.Config.Resolve
import NodeAtlas.Http.Session
import NodeAtlas.Secret.Manager

/-!
# Providers

A provider is an atlas with the configuration that it is built from. Building it checks the whole
configuration and contacts no endpoint.
-/

namespace NodeAtlas

open NodeAtlas.Text

/-- An atlas with the configuration that it is built from. -/
structure Provider where
  config : Config
  /-- The credential managers by secret reference. -/
  managers : Dict Secret.Manager
  atlas : Atlas

namespace Provider

/-- The credential managers, completed by the configured directory unless there is a global one. -/
def completeManagers (c : Config) (managers : Dict Secret.Manager) : Dict Secret.Manager :=
  let directory := trim c.global.secretsDirectory
  if directory.isEmpty || managers.contains globalSecretRef then managers
  else managers.insert globalSecretRef (.directory directory)

/-- Builds a provider, together with the sessions that a factory opens by tenant. -/
def build {σ : Type} (config : Option Config) (managers : Dict Secret.Manager)
    (factory : Config → Endpoint → Result σ) : Result (Provider × Dict σ) :=
  match config with
  | none => .error (.validation (.field "config" "Configuration is required"))
  | some c => do
    let endpoints ← Config.resolve c
    let managers := completeManagers c managers
    let (pool, sessions) ← Pool.create endpoints (factory c) managers.keys c.discovery
    let policy ← AddressPolicy.ofConfig c.nodes
    return (⟨c, managers, ⟨pool, policy, c.labels⟩⟩, sessions)

/-- Opens a session over HTTP. -/
def openHttp (c : Config) (e : Endpoint) : Result Http.Client :=
  Http.Client.ofEndpoint c.global.rateLimit e

/-- The calls that find the place of a zone by the configured categories. -/
def zoneRound (p : Provider) (zone region : String) : Pool.ZoneRound :=
  ⟨p.config.labels, zone, region⟩

/-- The provider as shown in logs. -/
def describe (p : Provider) : String :=
  shownRecord "IcsCloudProvider" [("config", p.config.describe),
    ("nodes", shownPart "NodeManager" [("connections", p.atlas.pool.describe),
      ("policy", p.atlas.policy.describe), ("labels", p.atlas.labels.describe)])]

end Provider

end NodeAtlas
