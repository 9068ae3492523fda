import NodeAtlas.Search.Machines
import NodeAtlas.Text.Ascii

/-!
# Finding zones

The place that serves a zone of a region. Hosts carry tags, and the tags of two configured
categories name the zone and the region of a host. A single datacenter of a single endpoint serves
every zone.
-/

namespace NodeAtlas

open NodeAtlas.Search NodeAtlas.Text

/-- A zone and a region, as far as they are known. -/
structure ZoneRegion where
  zone : Option String := none
  region : Option String := none
  deriving DecidableEq, Repr, Inhabited

namespace ZoneRegion

/-- Takes what a tag says. A category without name is not looked up. -/
def see (labels : Config.Labels) (t : Tag) (zr : ZoneRegion) : ZoneRegion :=
  if !labels.zone.isEmpty && t.description == labels.zone then { zr with zone := some t.name }
  else if !labels.region.isEmpty && t.description == labels.region then
    { zr with region := some t.name }
  else zr

/-- Takes what tags say, until both are known. -/
def ofTags (labels : Config.Labels) (zr : ZoneRegion) : List Tag → ZoneRegion
  | [] => zr
  | t :: ts =>
    let zr := zr.see labels t
    if zr.zone.isSome && zr.region.isSome then zr else ofTags labels zr ts

/-- Everything that is looked up has been found. -/
def check (labels : Config.Labels) (host : String) (zr : ZoneRegion) : Result ZoneRegion :=
  if !labels.region.isEmpty && zr.region.isNone then
    .error (.zoneRegionNotFound
      ("region category " ++ labels.region ++ " does not match any tags for host " ++ host))
  else if !labels.zone.isEmpty && zr.zone.isNone then
    .error (.zoneRegionNotFound
      ("zone category " ++ labels.zone ++ " does not match any tags for host " ++ host))
  else .ok zr

/-- Zone and region are the wanted ones, whatever the case of their ASCII letters. -/
def isWanted (zone region : String) (zr : ZoneRegion) : Bool :=
  zr.zone.any (fun z => sameIgnoringCase z zone) &&
    zr.region.any fun r => sameIgnoringCase r region

end ZoneRegion

/-- A host in a datacenter, to be examined. -/
structure HostSite where
  /-- The datacenter. -/
  site : Site
  host : Host

namespace Pool

/-- Reads zone and region of a host of a tenant. -/
def zoneOfHost (p : Pool) (tenant host : String) (labels : Config.Labels) :
    Protocol interface (Result ZoneRegion) :=
  match p.endpoint tenant with
  | .error err => return .error err
  | .ok e => do
    match ← p.connectEndpoint e with
    | .error err => return .error err
    | .ok () =>
      match ← onSession e (.hostTags host) with
      | .error err => return .error err
      | .ok tags => return (ZoneRegion.ofTags labels {} tags).check labels host

/-! ## The search -/

/-- Produces the hosts of datacenters, and tells whether more are wanted. -/
def produceHostsAt (e : Endpoint) :
    List Datacenter → Protocol (Search.interface interface HostSite) Bool
  | [] => return true
  | d :: ds => do
    if ← Search.ask .isOver then return false
    match ← Search.lift (onSession e (.listHosts d)) with
    | .error err =>
      Search.ask (.record err)
      produceHostsAt e ds
    | .ok hosts =>
      if ← pushAll (hosts.map fun h => ⟨⟨e, d⟩, h⟩) then produceHostsAt e ds else return false

def produceHosts (p : Pool) : List Endpoint → Protocol (Search.interface interface HostSite) Unit
  | [] => return
  | e :: es => do
    if ← Search.ask .isOver then return
    match ← Search.lift (p.connectWithRetry e) with
    | .error err =>
      Search.ask (.record err)
      produceHosts p es
    | .ok () =>
      let s ← Search.lift (scan e)
      recordAll s.failures
      if ← produceHostsAt e s.found then produceHosts p es

/-- Examines a host. If its tags cannot be read, the host is passed over. -/
def examine (p : Pool) (labels : Config.Labels) (zone region : String) (h : HostSite) :
    Protocol interface (Result (Option Place)) := do
  match ← p.zoneOfHost h.site.endpoint.tenant h.host.id labels with
  | .error _ => return .ok none
  | .ok zr => return .ok (if zr.isWanted zone region then some h.site.place else none)

/-- A search through the hosts of all endpoints. -/
structure ZoneRound where
  /-- The categories of zone and region. -/
  labels : Config.Labels
  /-- The wanted zone. -/
  zone : String
  /-- The wanted region. -/
  region : String
  deriving DecidableEq, Repr

namespace ZoneRound

def search (p : Pool) (r : ZoneRound) : Search Pool.interface HostSite Place :=
  .within p.discovery (p.produceHosts p.list) (p.examine r.labels r.zone r.region)

def conclude (r : ZoneRound) : Outcome Place → Result Place
  | .found place => .ok place
  | .failed e => .error e
  | .exhausted => .error (.zoneRegionNotFound ("zone " ++ r.zone ++ " region " ++ r.region))

/-- Something to look for is missing. -/
def isIncomplete (r : ZoneRound) : Bool :=
  r.labels.zone.isEmpty || r.labels.region.isEmpty || r.zone.isEmpty || r.region.isEmpty

end ZoneRound

/-! ## The place of a zone -/

/-- The calls that find the place of a zone: those of a pool, and whole rounds. -/
inductive ZoneCall where
  | pool (c : Call)
  | round (r : ZoneRound)

abbrev ZoneReply : ZoneCall → Type
  | .pool c => Reply c
  | .round _ => Outcome Place

/-- The calls that find the place of a zone as an interface. -/
abbrev zoneInterface : Interface := ⟨ZoneCall, ZoneReply⟩

/-- A protocol of the pool among those that find zones. -/
def liftZone {α : Type} : Protocol interface α → Protocol zoneInterface α
  | .ret a => .ret a
  | .call c next => .call (.pool c) fun r => liftZone (next r)

/-- The only datacenter of an endpoint, if there is exactly one. -/
def onlyPlace (p : Pool) (e : Endpoint) : Protocol interface (Result (Option Place)) := do
  match ← p.connectWithRetry e with
  | .error err => return .error err
  | .ok () =>
    match ← onSession e .listDatacenters with
    | .error err => return .error err
    | .ok [d] => return .ok (some ⟨e.tenant, e.host, d⟩)
    | .ok _ => return .ok none

/-- Makes a round, if everything to look for is given. -/
def makeZoneRound (r : ZoneRound) : Protocol zoneInterface (Result Place) :=
  if r.isIncomplete then
    return .error (.invalidConfiguration
      "multiple iCenters or datacenters require zone and region labels")
  else .call (.round r) fun o => .ret (r.conclude o)

/-- The calls that find the place of a zone. -/
def seekZone (p : Pool) (r : ZoneRound) : Protocol zoneInterface (Result Place) :=
  match p.list with
  | [] => return .error (.invalidConfiguration "at least one iCenter and datacenter is required")
  | [e] => do
    match ← liftZone (p.onlyPlace e) with
    | .error err => return .error err
    | .ok (some place) => return .ok place
    | .ok none => makeZoneRound r
  | _ => makeZoneRound r

/-- Answers the calls that find zones. -/
def handleZone {σ : Type} (p : Pool) (h : interface.Handler σ) : zoneInterface.Handler σ
  | .pool c, s => h c s
  | .round r, s => (r.search p).run pauses h s

/-- Finds the place of a zone. -/
def findZone {σ : Type} (p : Pool) (h : interface.Handler σ) (r : ZoneRound) (s : σ) :
    Result Place × σ :=
  (p.seekZone r).run (p.handleZone h) s

end Pool

end NodeAtlas
