import NodeAtlas.Atlas.Registry

/-!
# Following the cluster

The registry follows the nodes of the cluster: it lists them and then watches their changes. When
listing or watching fails, it pauses and lists them again.
-/

namespace NodeAtlas

open Resolver (ask)

/-- A change in the cluster. -/
inductive ClusterEvent where
  /-- A node is new or has changed. -/
  | applied (n : ClusterNode)
  /-- A node is gone. -/
  | deleted (n : ClusterNode)
  /-- The cluster consists of these nodes. -/
  | restarted (nodes : List ClusterNode)
  deriving DecidableEq, Repr

/-- What a watch of the cluster reports. -/
inductive WatchReport where
  /-- A change. -/
  | event (e : ClusterEvent)
  /-- Nothing but a sign of progress. -/
  | bookmark
  /-- A failure, which ends the watch. -/
  | failure
  deriving DecidableEq, Repr

/-- A request to the cluster. -/
inductive WatchRequest where
  | list
  /-- For their changes. -/
  | watch
  deriving DecidableEq, Repr

/-- The cluster's answer to a request. -/
inductive WatchAnswer where
  | nodes (ns : List ClusterNode)
  /-- Changes, after which the watch ends. -/
  | reports (rs : List WatchReport)
  | failure
  deriving DecidableEq, Repr

namespace Atlas

/-- Follows a change. A node that is registered already is not looked for again. -/
def apply (a : Atlas) (r : Registry) : ClusterEvent → Protocol Resolver.interface Registry
  | .applied n => a.registerNew r n
  | .deleted n => return r.unregister n
  | .restarted nodes => a.sync r nodes

/-- Follows the changes that a watch reports, and tells whether it goes on without failure. -/
def applyReports (a : Atlas) (r : Registry) :
    List WatchReport → Protocol Resolver.interface (Registry × Bool)
  | [] => return (r, true)
  | .event e :: rs => do
    let r ← a.apply r e
    applyReports a r rs
  | .bookmark :: rs => applyReports a r rs
  | .failure :: _ => return (r, false)

/-- Follows the answer to a request. The result tells whether the next request can be
for changes. -/
def applyAnswer (a : Atlas) (r : Registry) :
    WatchRequest → WatchAnswer → Protocol Resolver.interface (Registry × Bool)
  | .list, .nodes ns => do return (← a.apply r (.restarted ns), true)
  | .watch, .reports rs => a.applyReports r rs
  | _, _ => return (r, false)

/-- Follows the cluster as long as it answers, beginning with the given request. The result holds
the requests that were answered. -/
def follow (a : Atlas) (delay : Nat) (r : Registry) (q : WatchRequest) :
    List WatchAnswer → Protocol Resolver.interface (Registry × List WatchRequest)
  | [] => return (r, [])
  | answer :: answers => do
    let (r, goesOn) ← a.applyAnswer r q answer
    if !goesOn then ask (.pause delay)
    let (r, qs) ← follow a delay r (if goesOn then .watch else .list) answers
    return (r, q :: qs)

end Atlas

end NodeAtlas
