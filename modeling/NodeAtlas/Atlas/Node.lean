import NodeAtlas.Atlas.Address
import NodeAtlas.NodeId
import NodeAtlas.Search.Machines

/-!
# Nodes

A node of the cluster as the cluster reports it, and what is known about the machine behind it.
-/

namespace NodeAtlas

open NodeAtlas.Text

/-- A node as the cluster reports it. -/
structure ClusterNode where
  name : Option String
  /-- The UUID of its machine, if it reports one. -/
  systemUuid : Option String
  deriving DecidableEq, Repr, Inhabited

/-- The UUID of the machine behind a node in canonical form, unless it is blank. -/
def ClusterNode.uuid? (n : ClusterNode) : Option String :=
  (n.systemUuid.filter fun u => !isBlankText u).map canonicalize

/-- What is known about the machine behind a node. -/
structure NodeInfo where
  /-- Where it is. -/
  place : Place
  machine : Machine
  /-- Its UUID in canonical form. -/
  uuid : String
  nodeName : String
  instanceType : String
  addresses : List NodeAddress
  deriving DecidableEq, Repr, Inhabited

/-- What follows from a machine that was found. -/
def NodeInfo.ofFound (policy : AddressPolicy) (families : List Net.Family) (f : Found) : NodeInfo :=
  ⟨f.place, f.machine, f.uuid, f.nodeName, NodeAtlas.instanceType f.machine,
    policy.select f.machine families⟩

/-- The record of a node for export. -/
structure NodeRecord where
  /-- The address of the endpoint. -/
  server : String
  /-- The name of the datacenter. -/
  datacenter : String
  name : String
  /-- The UUID of the machine. -/
  uuid : String
  /-- The host names. -/
  hostnames : List String
  /-- The external addresses. -/
  addresses : List String
  deriving DecidableEq, Repr, Inhabited

def NodeInfo.addressesOf (i : NodeInfo) (kind : AddressKind) : List String :=
  (i.addresses.filter fun a => a.kind = kind).map (·.address)

def NodeInfo.record (i : NodeInfo) : NodeRecord :=
  ⟨i.place.server, i.place.datacenter.name, i.nodeName, i.uuid, i.addressesOf .hostname,
    i.addressesOf .external⟩

end NodeAtlas
