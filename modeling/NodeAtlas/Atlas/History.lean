import NodeAtlas.Atlas.Watch

/-!
# Histories of a registry

What can be done to a registry, one operation after another, whatever is found on the way.
`Reachable` holds of the registries that some history makes from the empty one.
-/

namespace NodeAtlas

inductive RegistryOperation where
  /-- A node joins the cluster. -/
  | register (n : ClusterNode)
  /-- A node leaves the cluster. -/
  | unregister (n : ClusterNode)
  /-- The cluster consists of these nodes. -/
  | sync (nodes : List ClusterNode)
  /-- A machine is looked for. -/
  | discover (lookup : Lookup) (id : String)
  /-- The cluster asks what it needs to know about a node. -/
  | metadata (providerId : String)
  deriving DecidableEq, Repr

namespace Atlas

/-- Carries out an operation. -/
def perform (a : Atlas) (r : Registry) : RegistryOperation → Protocol Resolver.interface Registry
  | .register n => a.register r n
  | .unregister n => return r.unregister n
  | .sync nodes => a.sync r nodes
  | .discover lookup id => (·.2) <$> a.discover r lookup id
  | .metadata providerId => (·.2) <$> a.metadata r providerId

/-- Carries out operations in their order. -/
def performAll (a : Atlas) (r : Registry) :
    List RegistryOperation → Protocol Resolver.interface Registry
  | [] => return r
  | o :: os => do
    let r ← a.perform r o
    performAll a r os

/-- A history of operations makes this registry from the empty one. -/
inductive Reachable (a : Atlas) : Registry → Prop where
  /-- Nothing is done. -/
  | empty : Reachable a {}
  /-- One operation more. -/
  | step {r r' : Registry} (h : Reachable a r) (o : RegistryOperation)
      {es : List Resolver.interface.Exchange} (hs : (a.perform r o).Yields es r') : Reachable a r'

/-- Follows changes in their order. -/
def applyAll (a : Atlas) (r : Registry) :
    List ClusterEvent → Protocol Resolver.interface Registry
  | [] => return r
  | e :: es => do
    let r ← a.apply r e
    applyAll a r es

end Atlas

end NodeAtlas
