import NodeAtlas.Dict
import NodeAtlas.NodeId
import NodeAtlas.Session.Basic
import NodeAtlas.Text.Ascii

/-!
# Endpoints in memory

An endpoint whose inventory is given, for trials without a server. Its calls can be made to fail one
by one, and it counts them.
-/

namespace NodeAtlas.Session

open NodeAtlas.Text

/-- What is made to happen in a call. -/
inductive Mishap where
  /-- The call fails. -/
  | fail (e : Error)
  /-- The session ends before the call. -/
  | expire
  | nothing
  deriving DecidableEq, Repr

/-- What an endpoint holds and how it behaves. -/
structure Setting where
  datacenters : List Datacenter := []
  /-- Its machines with the names of their datacenters. -/
  machines : List (String × Machine) := []
  /-- Its hosts with the names of their datacenters. -/
  hosts : List (String × Host) := []
  /-- The tags of its hosts. -/
  tags : Dict (List Tag) := ∅
  /-- It cannot be reached. -/
  unreachable : Bool := false
  /-- The only credentials that it accepts, if not all. -/
  required : Option Credentials := none
  /-- What is made to happen in the next calls of each kind. -/
  mishaps : Dict (List Mishap) := ∅
  deriving Inhabited

/-- An endpoint in memory and the session with it. -/
structure InMemory where
  /-- What it holds and how it behaves. -/
  setting : Setting
  /-- The session is live. -/
  connected : Bool := false
  credentials : Credentials := .none
  /-- The number of calls of each kind, and of logins. -/
  counts : Dict Nat := ∅
  deriving Inhabited

namespace InMemory

/-- Counts a call. -/
def count (kind : String) (m : InMemory) : InMemory :=
  { m with counts := m.counts.insert kind ((m.counts.find? kind).getD 0 + 1) }

/-- Takes what is made to happen next in calls of a kind. -/
def takeMishap (kind : String) (m : InMemory) : Mishap × InMemory :=
  match m.setting.mishaps.find? kind with
  | some (x :: xs) =>
    (x, { m with setting := { m.setting with mishaps := m.setting.mishaps.insert kind xs } })
  | _ => (.nothing, m)

/-- Begins a call: counts it and lets happen what is made to happen, then answers
unless it fails. -/
def scripted {α : Type} (kind : String) (m : InMemory)
    (answer : InMemory → Result α × InMemory) : Result α × InMemory :=
  match (m.count kind).takeMishap kind with
  | (.fail e, m) => (.error e, m)
  | (.expire, m) => answer { m with connected := false }
  | (.nothing, m) => answer m

/-- Logs in unless the session is live. -/
def connect (m : InMemory) : Result Unit × InMemory :=
  if m.setting.unreachable then (.error (.connection "connection refused"), m)
  else if m.connected then (.ok (), m)
  else if m.setting.required.any (· ≠ m.credentials) then
    (.error (.invalidCredentials "rejected"), m)
  else (.ok (), { m.count "login" with connected := true })

/-- The machine is the one that is looked up. -/
def isSought (lookup : Lookup) (key : String) (vm : Machine) : Bool :=
  match lookup with
  | .uuid => canonicalize vm.uuid == key
  | .name => sameIgnoringCase vm.name key
  | .ip => vm.nics.any fun n => n.address == key

/-- Looks up a machine; the first one counts. -/
def machine (m : InMemory) (lookup : Lookup) (datacenter key : String) : Result Machine :=
  if !m.connected then .error (.invalidCredentials "session expired")
  else
    match m.setting.machines.find? fun e => e.1 == datacenter && isSought lookup key e.2 with
    | some e => .ok e.2
    | none => .error (.vmNotFound key)

/-- Looks up a datacenter by name. -/
def datacenter (m : InMemory) (name : String) : Result Datacenter :=
  match m.setting.datacenters.find? fun d => d.name == name with
  | some d => .ok d
  | none => .error (.datacenterNotFound name)

def hostTags (m : InMemory) (host : String) : Result (List Tag) :=
  match m.setting.tags.find? host with
  | some ts => .ok ts
  | none => .error (.zoneRegionNotFound ("host " ++ host))

/-- Answers the calls on the session. -/
def handle : Session.interface.Handler InMemory
  | .connect, m => m.scripted "connect" connect
  | .logout, m => m.scripted "logout" fun m => (.ok (), { m with connected := false })
  | .isConnected, m => (m.connected, m)
  | .updateCredentials c, m => ((), { m.count "update_credentials" with credentials := c })
  | .listDatacenters, m =>
    m.scripted "list_datacenters" fun m => (.ok m.setting.datacenters, m)
  | .getDatacenter name, m => m.scripted "get_datacenter" fun m => (m.datacenter name, m)
  | .findMachine lookup d key, m =>
    m.scripted ("find_vm_by_" ++ lookup.word) fun m => (m.machine lookup d.name key, m)
  | .listHosts d, m =>
    m.scripted "list_hosts" fun m =>
      (.ok ((m.setting.hosts.filter fun e => e.1 == d.name).map (·.2)), m)
  | .hostTags host, m => m.scripted "host_tags" fun m => (m.hostTags host, m)

end InMemory

end NodeAtlas.Session
