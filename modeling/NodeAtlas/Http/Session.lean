import NodeAtlas.Config.Basic
import NodeAtlas.Endpoint
import NodeAtlas.Http.Client
import NodeAtlas.Inventory.Record
import NodeAtlas.Session.Basic
import NodeAtlas.Text.LowerCase

/-!
# Sessions over HTTP

How a client answers the calls on a session.
-/

namespace NodeAtlas.Http

open NodeAtlas.Json NodeAtlas.Text

/-- The limits on requests, if any, are positive. -/
def checkRateLimit : Option Config.RateLimit → Result Unit
  | none => .ok ()
  | some l =>
    if l.requestsPerSecond = 0 then
      .error (.invalidConfiguration "requests-per-second must be > 0")
    else if l.burstSize = 0 then .error (.invalidConfiguration "burst-size must be > 0")
    else .ok ()

namespace Client

def ofEndpoint (limit : Option Config.RateLimit) (e : Endpoint) : Result Client := do
  let url ← e.baseUrl
  checkRateLimit limit
  return ⟨url, e.host, limit.isSome⟩

def datacenters (x : Client) : Protocol interface (Result (List Datacenter)) := do
  match ← x.data (asList Datacenter.ofJson?) "datacenters" [] with
  | .error e => return .error e
  | .ok ds => return .ok ((ds.getD []).map fun d => { d with endpoint := x.server })

/-- Looks up a datacenter by its name or its identifier; the first one counts. -/
def datacenter (x : Client) (name : String) : Protocol interface (Result Datacenter) := do
  match ← x.datacenters with
  | .error e => return .error e
  | .ok ds =>
    match ds.find? fun d => d.name == name || d.id == name with
    | some d => return .ok d
    | none => return .error (.datacenterNotFound (name ++ " on " ++ x.server))

/-- What a lookup sends: a UUID as it is, all else trimmed and in lower case. -/
def lookupValue (lookup : Lookup) (key : String) : String :=
  match lookup with
  | .uuid => key
  | .name | .ip => lowerCase (trim key)

/-- Looks up a machine; the first one counts. -/
def machine (x : Client) (lookup : Lookup) (d : Datacenter) (key : String) :
    Protocol interface (Result Machine) := do
  let value := lookupValue lookup key
  match ← x.data (asList Machine.ofJson?) ("datacenters/" ++ d.id ++ "/vms")
      [(lookup.word, value)] with
  | .error e => return .error e
  | .ok vms =>
    match vms.getD [] with
    | vm :: _ => return .ok vm
    | [] =>
      return .error (.vmNotFound (lookup.word ++ "=" ++ value ++ " in datacenter " ++ d.name))

def hosts (x : Client) (d : Datacenter) : Protocol interface (Result (List Host)) := do
  match ← x.data (asList Host.ofJson?) ("datacenters/" ++ d.id ++ "/hosts") [] with
  | .error e => return .error e
  | .ok hs => return .ok (hs.getD [])

/-- Lists the tags of things, each given with its kind. Something without identifier has none. -/
def tagsOf (x : Client) (tags : List Tag) :
    List (String × String) → Protocol interface (Result (List Tag))
  | [] => return .ok tags
  | (kind, id) :: targets =>
    if id.isEmpty then tagsOf x tags targets
    else do
      match ← x.data (asList Tag.ofJson?) "tags" [("targetType", kind), ("targetId", id)] with
      | .error e => return .error e
      | .ok found => tagsOf x (tags ++ found.getD []) targets

/-- Lists the tags of a host, its cluster and its datacenter. -/
def hostTags (x : Client) (id : String) : Protocol interface (Result (List Tag)) := do
  match ← x.data Host.ofJson? ("hosts/" ++ id) [] with
  | .error e => return .error e
  | .ok none => return .error (.zoneRegionNotFound ("host " ++ id ++ " not found"))
  | .ok (some h) =>
    x.tagsOf [] [("HOST", h.id), ("CLUSTER", h.clusterId), ("DATACENTER", h.datacenterId)]

def answer (x : Client) : (c : Session.Call) → Protocol interface (Session.Reply c)
  | .connect => x.ensure
  | .logout => x.logout
  | .isConnected => ask .isLive
  | .updateCredentials c => ask (.setCredentials c)
  | .listDatacenters => x.datacenters
  | .getDatacenter name => x.datacenter name
  | .findMachine lookup d key => x.machine lookup d key
  | .listHosts d => x.hosts d
  | .hostTags id => x.hostTags id

end Client

end NodeAtlas.Http
