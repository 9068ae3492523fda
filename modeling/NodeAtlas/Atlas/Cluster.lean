import NodeAtlas.Atlas.Trace

/-!
# The cluster behind its changes

In the cluster a node is known by its name, in the registry by its UUID. What the changes say about
the nodes of the cluster is kept here by name, so that it can be compared with what the registry makes
of them.
-/

namespace NodeAtlas

/-- The name by which the cluster knows the node. -/
def ClusterNode.key (n : ClusterNode) : String := n.name.getD ""

/-- The nodes of a cluster by name. -/
abbrev Cluster := Dict ClusterNode

namespace Cluster

def uuids (c : Cluster) : Finset String := ClusterNode.uuids c.values

/-- The UUIDs of its nodes of other names. -/
def uuidsBeside (c : Cluster) (name : String) : Finset String := uuids (c.erase name)

/-- The cluster after a change. -/
def after (c : Cluster) : ClusterEvent → Cluster
  | .applied n => c.insert n.key n
  | .deleted n => c.erase n.key
  | .restarted ns => .ofList (ns.map fun n => (n.key, n))

/-- A UUID that the node of this name has is the given one or belongs to a node of another name too. -/
def Covers (c : Cluster) (name : String) (uuid? : Option String) : Prop :=
  ∀ n u, c.find? name = some n → n.uuid? = some u → uuid? = some u ∨ u ∈ c.uuidsBeside name

/-- The UUIDs in a change tell what becomes of those in the cluster: an update gives up no UUID, a node
that leaves takes its own UUID along and no other node has it, and a listing names no node twice with
different UUIDs. -/
def Faithful (c : Cluster) : ClusterEvent → Prop
  | .applied n => c.Covers n.key n.uuid?
  | .deleted n => c.Covers n.key n.uuid? ∧ ∀ u, n.uuid? = some u → u ∉ c.uuidsBeside n.key
  | .restarted ns => ∀ n ∈ ns, ∀ u, n.uuid? = some u → u ∈ uuids (c.after (.restarted ns))

/-- Each of the changes is faithful to the cluster that it meets. -/
def AllFaithful (c : Cluster) : List ClusterEvent → Prop
  | [] => True
  | e :: es => c.Faithful e ∧ AllFaithful (c.after e) es

end Cluster

end NodeAtlas
