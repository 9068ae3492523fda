/-!
# Inventory

What an endpoint reports: its datacenters, the virtual machines and hosts in them, and the tags of
hosts.
-/

namespace NodeAtlas

/-- A named part of the inventory of one endpoint. -/
structure Datacenter where
  /-- The identifier in requests. -/
  id : String
  /-- The name by which it is searched and shown. -/
  name : String
  /-- The address of the endpoint it belongs to, as far as known. -/
  endpoint : String := ""
  deriving DecidableEq, Repr, Inhabited

/-- A network interface of a machine. -/
structure Nic where
  /-- The name of the network it is attached to. -/
  network : String
  /-- Its address as reported. -/
  address : String
  deriving DecidableEq, Repr, Inhabited

/-- A virtual machine. -/
structure Machine where
  /-- The UUID in the spelling of the endpoint. -/
  uuid : String
  /-- The name, which is also the host name of the guest. -/
  name : String
  /-- The network interfaces. -/
  nics : List Nic
  /-- The number of processors. -/
  processors : UInt32
  /-- The memory in MiB. -/
  memory : UInt64
  /-- The label of the guest operating system. -/
  guestLabel : String
  /-- The host that runs the machine. -/
  hostId : Option String
  deriving DecidableEq, Repr, Inhabited

/-- A hypervisor host. -/
structure Host where
  /-- The identifier in requests. -/
  id : String
  name : String
  /-- The datacenter it belongs to. -/
  datacenterId : String
  /-- The cluster it belongs to. -/
  clusterId : String
  deriving DecidableEq, Repr, Inhabited

/-- A tag: its description is the category and its name the value. -/
structure Tag where
  /-- The value. -/
  name : String
  /-- The category. -/
  description : String
  deriving DecidableEq, Repr, Inhabited

end NodeAtlas
