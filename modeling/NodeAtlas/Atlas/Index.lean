import NodeAtlas.Atlas.Node

/-!
# The index of nodes

The machines that have been found, as a tree of endpoints, datacenters and UUIDs, and by UUID and by
name. A machine that is found again moves to its new place and leaves nothing behind.
-/

namespace NodeAtlas

/-- The machines of each datacenter of each endpoint by UUID. -/
abbrev Tree := Dict (Dict (Dict NodeInfo))

namespace Tree

/-- The tree without the machine of a UUID in a datacenter. Datacenters and endpoints without
machines are left out. -/
def remove (t : Tree) (server datacenter uuid : String) : Tree :=
  match t.find? server with
  | none => t
  | some datacenters =>
    let datacenters :=
      match datacenters.find? datacenter with
      | none => datacenters
      | some machines =>
        let machines := machines.erase uuid
        if machines.isEmpty then datacenters.erase datacenter
        else datacenters.insert datacenter machines
    if datacenters.isEmpty then t.erase server else t.insert server datacenters

/-- The tree with a machine at its place. -/
def add (t : Tree) (i : NodeInfo) : Tree :=
  let datacenters := (t.find? i.place.server).getD ∅
  let machines := (datacenters.find? i.place.datacenter.name).getD ∅
  t.insert i.place.server
    (datacenters.insert i.place.datacenter.name (machines.insert i.uuid i))

/-- All machines in the order of endpoints, datacenters and UUIDs. -/
def all (t : Tree) : List NodeInfo :=
  t.values.flatMap fun datacenters => datacenters.values.flatMap Dict.values

end Tree

/-- The machines that have been found. -/
structure Index where
  /-- By place. -/
  tree : Tree := ∅
  byName : Dict NodeInfo := ∅
  byUuid : Dict NodeInfo := ∅
  deriving Inhabited

namespace Index

/-- The index without what it holds about a machine under its former place and name,
except by UUID. -/
def forget (x : Index) (previous : NodeInfo) (nodeName : String) : Index :=
  { x with
    tree := x.tree.remove previous.place.server previous.place.datacenter.name previous.uuid
    byName :=
      if previous.nodeName ≠ nodeName ∧
          ((x.byName.find? previous.nodeName).any fun i => i.uuid == previous.uuid) = true then
        x.byName.erase previous.nodeName
      else x.byName }

/-- Adds a machine in place of what is held under its UUID. -/
def insert (x : Index) (i : NodeInfo) : Index :=
  let x := match x.byUuid.find? i.uuid with
    | some previous => x.forget previous i.nodeName
    | none => x
  { tree := x.tree.add i
    byName := x.byName.insert i.nodeName i
    byUuid := x.byUuid.insert i.uuid i }

/-- The machines of an endpoint and of one of its datacenters. Without an endpoint these are all
machines, without a datacenter all those of the endpoint. -/
def select (x : Index) (server datacenter : String) : Result (List NodeInfo) :=
  if server.isEmpty then .ok x.tree.all
  else
    match x.tree.find? server with
    | none => .error (.endpointNotFound server)
    | some datacenters =>
      if datacenter.isEmpty then .ok (datacenters.values.flatMap Dict.values)
      else
        match datacenters.find? datacenter with
        | none => .error (.datacenterNotFound datacenter)
        | some machines => .ok machines.values

end Index

end NodeAtlas
