import NodeAtlas.Config.Basic
import NodeAtlas.Inventory.Basic
import NodeAtlas.Net.Family
import NodeAtlas.Net.Subnet
import NodeAtlas.Text.Ascii
import NodeAtlas.Text.Blank
import NodeAtlas.Text.Shown

/-!
# Node addresses

Which addresses of a machine become addresses of its node. Subnets decide if both are configured,
else the names of networks if one is configured, else every address counts as internal and external.
-/

namespace NodeAtlas

open NodeAtlas.Net NodeAtlas.Text

/-- The kinds of node addresses. -/
inductive AddressKind where
  /-- The name of the machine. -/
  | hostname
  /-- An address inside the cluster. -/
  | internal
  /-- An address for the outside. -/
  | external
  deriving DecidableEq, Repr

/-- The name of the kind as the cluster writes it. -/
def AddressKind.name : AddressKind → String
  | hostname => "Hostname"
  | internal => "InternalIP"
  | external => "ExternalIP"

structure NodeAddress where
  kind : AddressKind
  /-- Its text. -/
  address : String
  deriving DecidableEq, Repr

/-- The rules by which addresses are selected. -/
structure AddressPolicy where
  /-- The subnet of internal addresses. -/
  internalSubnet : Option Subnet
  /-- The subnet of external addresses. -/
  externalSubnet : Option Subnet
  /-- The network of internal addresses, or nothing. -/
  internalNetwork : String
  /-- The network of external addresses, or nothing. -/
  externalNetwork : String
  deriving DecidableEq, Repr

namespace AddressPolicy

/-- Reads a subnet setting; a blank one means none. -/
def readSubnet (setting value : String) : Result (Option Subnet) :=
  let value := trim value
  if value.isEmpty then .ok none
  else
    match Subnet.parse? value with
    | some net => .ok (some net)
    | none =>
      .error (.invalidConfiguration
        ("invalid " ++ setting ++ " '" ++ value ++ "': invalid IP address syntax"))

/-- The rules that a configuration states. -/
def ofConfig (nodes : Config.Nodes) : Result AddressPolicy := do
  let internalSubnet ← readSubnet "internal-network-subnet-cidr" nodes.internalSubnet
  let externalSubnet ← readSubnet "external-network-subnet-cidr" nodes.externalSubnet
  return ⟨internalSubnet, externalSubnet, trim nodes.internalNetwork, trim nodes.externalNetwork⟩

/-- Subnets decide. -/
def bySubnet (p : AddressPolicy) : Bool := p.internalSubnet.isSome && p.externalSubnet.isSome

/-- Network names are configured. -/
def namesNetwork (p : AddressPolicy) : Bool :=
  !p.internalNetwork.isEmpty || !p.externalNetwork.isEmpty

def isInternalNetwork (p : AddressPolicy) (name : String) : Bool :=
  !p.internalNetwork.isEmpty && sameIgnoringCase p.internalNetwork name

def isExternalNetwork (p : AddressPolicy) (name : String) : Bool :=
  !p.externalNetwork.isEmpty && sameIgnoringCase p.externalNetwork name

/-- The subnet exists and holds the address. -/
def holds (net : Option Subnet) (ip : Address) : Bool :=
  match net with
  | some n => n.contains ip
  | none => false

/-- The kinds that an address on the given network has, in the order in which they are listed. -/
def kinds (p : AddressPolicy) (network : String) (ip : Address) : List AddressKind :=
  if p.bySubnet then
    (if holds p.internalSubnet ip.unmap then [.internal] else []) ++
      (if holds p.externalSubnet ip.unmap then [.external] else [])
  else if p.isInternalNetwork network then [.internal]
  else if p.isExternalNetwork network then [.external]
  else [.external, .internal]

/-- An interface is passed over when network names decide and its network has none of them. -/
def skips (p : AddressPolicy) (nic : Nic) : Bool :=
  !p.bySubnet && p.namesNetwork && !p.isInternalNetwork nic.network &&
    !p.isExternalNetwork nic.network

/-- Appends an address unless it is there already. -/
def pushNew (as : List NodeAddress) (a : NodeAddress) : List NodeAddress :=
  if a ∈ as then as else as ++ [a]

/-- A selection under way. -/
structure Selection where
  /-- The addresses selected so far. -/
  list : List NodeAddress
  /-- Some IP address has been selected. -/
  found : Bool

/-- Selects the address of an interface if it belongs to the family. -/
def selectFamily (p : AddressPolicy) (nic : Nic) (s : Selection) (family : Family) : Selection :=
  (family.routable [nic.address]).foldl
    (fun s ip =>
      (p.kinds nic.network ip).foldl (fun s kind => ⟨pushNew s.list ⟨kind, ip.render⟩, true⟩) s) s

/-- Tries the families in turn, until some address has been selected. -/
def selectNic (p : AddressPolicy) (nic : Nic) (s : Selection) : List Family → Selection
  | [] => s
  | f :: fs =>
    let s := p.selectFamily nic s f
    if s.found then s else selectNic p nic s fs

/-- The addresses of a machine: its name, then the selected addresses of its interfaces. -/
def select (p : AddressPolicy) (vm : Machine) (families : List Family) : List NodeAddress :=
  (vm.nics.foldl (fun s nic => if p.skips nic then s else p.selectNic nic s families)
    ⟨[⟨.hostname, vm.name⟩], false⟩).list

/-- The rules as shown in logs. -/
def describe (p : AddressPolicy) : String :=
  shownRecord "AddressPolicy" [
    ("internal_subnet", shownOption (p.internalSubnet.map Subnet.render)),
    ("external_subnet", shownOption (p.externalSubnet.map Subnet.render)),
    ("internal_network", quoted p.internalNetwork),
    ("external_network", quoted p.externalNetwork)]

end AddressPolicy

/-- The instance type of a machine: its processors, its memory in GiB, and the first word of its
guest's label. -/
def instanceType (vm : Machine) : String :=
  "ics-vm.cpu-" ++ toString vm.processors.toNat ++ ".mem-" ++ toString (vm.memory.toNat / 1024) ++
    "gb.os-" ++ (firstWord? vm.guestLabel).getD "unknown"

end NodeAtlas
