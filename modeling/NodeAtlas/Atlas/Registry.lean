import NodeAtlas.Atlas.Index
import NodeAtlas.Search.Zones

/-!
# The registry of nodes

The nodes that are in the cluster, together with the index of the machines found so far. A node is
registered even when its machine cannot be found, and a machine stays in the index when its node
leaves.
-/

namespace NodeAtlas

/-- The settings of an atlas: the pool it searches, the addresses it selects and the
tags it reads. -/
structure Atlas where
  pool : Pool
  /-- The choice of addresses. -/
  policy : AddressPolicy
  /-- The categories of zone and region. -/
  labels : Config.Labels

/-- The nodes in the cluster and the machines that have been found. -/
structure Registry where
  /-- The machines that have been found. -/
  index : Index := {}
  /-- The nodes in the cluster by UUID. -/
  registered : Dict ClusterNode := ∅
  deriving Inhabited

/-! ## Calls -/

namespace Resolver

/-- What an atlas asks for. -/
inductive Call where
  /-- Finds a machine. -/
  | find (lookup : Lookup) (id : String)
  /-- Reads zone and region of a host of a tenant. -/
  | zone (tenant host : String)
  /-- Lets time pass. -/
  | pause (milliseconds : Nat)
  deriving DecidableEq, Repr

abbrev Reply : Call → Type
  | .find .. => Result Found
  | .zone .. => Result ZoneRegion
  | .pause _ => Unit

/-- What an atlas asks for as an interface. -/
abbrev interface : Interface := ⟨Call, Reply⟩

/-- Makes a call. -/
def ask (c : Call) : Protocol interface (Reply c) := .call c .ret

end Resolver

open Resolver (ask)

namespace Registry

/-- A node with this UUID, in any spelling, is in the cluster. -/
def isRegistered (r : Registry) (uuid : String) : Bool := r.registered.contains (canonicalize uuid)

def holds (r : Registry) (n : ClusterNode) : Bool :=
  match n.uuid? with
  | some uuid => r.registered.contains uuid
  | none => false

/-- A node leaves the cluster. -/
def unregister (r : Registry) (n : ClusterNode) : Registry :=
  match n.uuid? with
  | none => r
  | some uuid => { r with registered := r.registered.erase uuid }

/-- The nodes leave the cluster that are not among the given ones. -/
def unregisterOthers (r : Registry) (nodes : List ClusterNode) : Registry :=
  let listed := nodes.filterMap ClusterNode.uuid?
  let stale := (r.registered.entries.filter fun e => !listed.contains e.1).map (·.2)
  stale.foldl unregister r

/-- What is known about the node of a UUID in the cluster. -/
def info (r : Registry) (uuid : String) : Result NodeInfo :=
  let uuid := canonicalize uuid
  if !r.registered.contains uuid then .error (.vmNotFound ("node " ++ uuid ++ " is not registered"))
  else
    match r.index.byUuid.find? uuid with
    | some i => .ok i
    | none => .error (.vmNotFound ("node " ++ uuid ++ " was not discovered"))

/-- What is known about the node of a name in the cluster. -/
def infoByName (r : Registry) (name : String) : Result NodeInfo :=
  match (r.index.byName.find? name).filter fun i => r.registered.contains i.uuid with
  | some i => .ok i
  | none => .error (.vmNotFound ("node " ++ name))

/-- The record of the node of a UUID in the cluster. -/
def node (r : Registry) (uuid : String) : Result NodeRecord := (r.info uuid).map NodeInfo.record

/-- The records of the nodes in the cluster of an endpoint and of one of its datacenters. -/
def exportNodes (r : Registry) (server datacenter : String) : Result (List NodeRecord) :=
  (r.index.select server datacenter).map fun is =>
    (is.filter fun i => r.registered.contains i.uuid).map NodeInfo.record

end Registry

/-- What the cluster needs to know to take up a node. -/
structure Metadata where
  providerId : String
  instanceType : String
  addresses : List NodeAddress
  /-- Zone and region, as far as they are known. -/
  zone : ZoneRegion
  deriving DecidableEq, Repr, Inhabited

namespace Atlas

/-- The address families of a tenant. -/
def familiesOf (a : Atlas) (tenant : String) : List Net.Family :=
  match a.pool.endpoint tenant with
  | .ok e => e.families
  | .error _ => [.ipv4]

/-- What is known about a machine that was found. -/
def describe (a : Atlas) (f : Found) : NodeInfo :=
  .ofFound a.policy (a.familiesOf f.place.tenant) f

/-- Finds a machine and adds it to the index. -/
def discover (a : Atlas) (r : Registry) (lookup : Lookup) (id : String) :
    Protocol Resolver.interface (Result NodeInfo × Registry) := do
  match ← ask (.find lookup id) with
  | .error err => return (.error err, r)
  | .ok f => return (.ok (a.describe f), { r with index := r.index.insert (a.describe f) })

/-- A node joins the cluster. Its machine is looked for. -/
def register (a : Atlas) (r : Registry) (n : ClusterNode) : Protocol Resolver.interface Registry :=
  match n.uuid? with
  | none => return r
  | some uuid => do
    let (_, r) ← a.discover r .uuid uuid
    return { r with registered := r.registered.insert uuid n }

/-- A node joins the cluster unless it is there already. -/
def registerNew (a : Atlas) (r : Registry) (n : ClusterNode) :
    Protocol Resolver.interface Registry :=
  if r.holds n then return r else a.register r n

/-- Nodes join the cluster in their order unless they are there already. -/
def registerAll (a : Atlas) (r : Registry) : List ClusterNode → Protocol Resolver.interface Registry
  | [] => return r
  | n :: ns => do
    let r ← a.registerNew r n
    registerAll a r ns

/-- The cluster consists of the given nodes. -/
def sync (a : Atlas) (r : Registry) (nodes : List ClusterNode) :
    Protocol Resolver.interface Registry :=
  a.registerAll (r.unregisterOthers nodes) nodes

/-- Zone and region of a machine, if they are looked up. -/
def zoneOf (a : Atlas) (i : NodeInfo) : Protocol Resolver.interface (Result ZoneRegion) :=
  if a.labels.zone.isEmpty && a.labels.region.isEmpty then return .ok {}
  else
    match i.machine.hostId with
    | none => return .ok {}
    | some host => ask (.zone i.place.tenant host)

/-- What is known about the machine of a UUID; if it is not in the index, it is looked for. -/
def infoOf (a : Atlas) (r : Registry) (uuid : String) :
    Protocol Resolver.interface (Result NodeInfo × Registry) :=
  match r.index.byUuid.find? uuid with
  | some i => return (.ok i, r)
  | none => a.discover r .uuid uuid

/-- What the cluster needs to know to take up the node of a provider id. -/
def metadata (a : Atlas) (r : Registry) (providerId : String) :
    Protocol Resolver.interface (Result Metadata × Registry) :=
  match NodeId.ofProviderId providerId with
  | .error err => return (.error err, r)
  | .ok id => do
    match ← a.infoOf r id.uuid with
    | (.error err, r) => return (.error err, r)
    | (.ok i, r) =>
      match ← a.zoneOf i with
      | .error err => return (.error err, r)
      | .ok zone => return (.ok ⟨id.providerId, i.instanceType, i.addresses, zone⟩, r)

end Atlas

end NodeAtlas
