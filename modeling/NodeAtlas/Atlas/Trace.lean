import Mathlib.Data.Finset.Option
import NodeAtlas.Atlas.History

/-!
# Traces of a registry

What the exchanges of an atlas tell about the machines found on the way, which changes of the cluster
are delivered by the answers to its requests, and which nodes are in the cluster after a change.
-/

namespace NodeAtlas

/-- The machine that was found in an exchange, if there is one. -/
def Atlas.found? (a : Atlas) : Resolver.interface.Exchange → Option NodeInfo
  | ⟨.find _ _, .ok f⟩ => some (a.describe f)
  | _ => none

/-- The machines that were found in exchanges. -/
abbrev Atlas.found (a : Atlas) (xs : List Resolver.interface.Exchange) : List NodeInfo :=
  xs.filterMap a.found?

namespace Resolver

/-- The machine of a UUID is looked for. -/
def Sought (u : String) (xs : List interface.Exchange) : Prop :=
  ∃ reply : Result Found, (⟨.find .uuid u, reply⟩ : interface.Exchange) ∈ xs

/-- Whenever the machine of a UUID is looked for, a machine of that UUID is found. -/
def Resolves (u : String) (xs : List interface.Exchange) : Prop :=
  ∀ reply : Result Found, (⟨.find .uuid u, reply⟩ : interface.Exchange) ∈ xs →
    ∃ f, reply = .ok f ∧ f.uuid = u

end Resolver

namespace Registry

/-- The UUIDs of the nodes in the cluster. -/
def members (r : Registry) : Finset String := r.registered.keys.toFinset

/-- Every node in the cluster is kept under its own UUID. -/
def Keyed (r : Registry) : Prop := ∀ u n, r.registered.find? u = some n → n.uuid? = some u

end Registry

/-- The UUIDs of the given nodes. -/
def ClusterNode.uuids (nodes : List ClusterNode) : Finset String :=
  (nodes.filterMap ClusterNode.uuid?).toFinset

/-- The UUIDs in the cluster after a change, given those before it. -/
def ClusterEvent.after (members : Finset String) : ClusterEvent → Finset String
  | .applied n => members ∪ n.uuid?.toFinset
  | .deleted n => members \ n.uuid?.toFinset
  | .restarted nodes => ClusterNode.uuids nodes

/-! ## Delivery -/

/-- The changes that a watch reports until it ends, and whether it ended without failure. -/
def WatchReport.delivered : List WatchReport → List ClusterEvent × Bool
  | [] => ([], true)
  | .event e :: rs => (e :: (delivered rs).1, (delivered rs).2)
  | .bookmark :: rs => delivered rs
  | .failure :: _ => ([], false)

/-- The changes in the answer to a request, and whether the next request can be for changes. -/
def WatchAnswer.delivered : WatchRequest → WatchAnswer → List ClusterEvent × Bool
  | .list, .nodes ns => ([.restarted ns], true)
  | .watch, .reports rs => WatchReport.delivered rs
  | _, _ => ([], false)

/-- The changes that are delivered by the answers to one request after another. -/
def WatchRequest.delivered (q : WatchRequest) : List WatchAnswer → List ClusterEvent
  | [] => []
  | answer :: answers =>
    (answer.delivered q).1 ++
      delivered (if (answer.delivered q).2 then .watch else .list) answers

end NodeAtlas
