import NodeAtlas.NodeId
import NodeAtlas.Pool.Places
import NodeAtlas.Search.Basic

/-!
# Finding machines

The search of a pool for a machine. All datacenters that count are tasks; an endpoint that cannot be
reached, a datacenter that is missing or a lookup that fails never keeps the others from being
searched. A search by name that finds nothing is repeated as one by address.
-/

namespace NodeAtlas

open NodeAtlas.Search

/-- A datacenter of an endpoint, to be searched. -/
structure Site where
  endpoint : Endpoint
  datacenter : Datacenter

def Site.place (s : Site) : Place := ⟨s.endpoint.tenant, s.endpoint.host, s.datacenter⟩

/-- A machine that a search has found. -/
structure Found where
  /-- Where it is. -/
  place : Place
  /-- Its UUID in canonical form. -/
  uuid : String
  nodeName : String
  machine : Machine
  deriving DecidableEq, Repr, Inhabited

namespace Pool

/-! ## Tasks -/

/-- Records failures in their order. -/
def recordAll {T : Type} : List Error → Protocol (Search.interface interface T) Unit
  | [] => return
  | e :: es => do
    Search.ask (.record e)
    recordAll es

/-- Puts tasks on the queue as long as they are wanted, and tells whether more are. -/
def pushAll {T : Type} : List T → Protocol (Search.interface interface T) Bool
  | [] => return true
  | t :: ts => do
    if ← Search.ask (.push t) then pushAll ts else return false

/-- Produces the datacenters of endpoints. -/
def produceSites (p : Pool) : List Endpoint → Protocol (Search.interface interface Site) Unit
  | [] => return
  | e :: es => do
    if ← Search.ask .isOver then return
    match ← Search.lift (p.connectWithRetry e) with
    | .error err =>
      Search.ask (.record err)
      produceSites p es
    | .ok () =>
      let s ← Search.lift (scan e)
      recordAll s.failures
      if ← pushAll (s.found.map fun d => ⟨e, d⟩) then produceSites p es

/-! ## Work -/

/-- What a lookup at a site means. A machine that is not there is a miss. -/
def judge (lookup : Lookup) (key : String) (s : Site) : Result Machine → Result (Option Found)
  | .ok vm =>
    .ok (some ⟨s.place, canonicalize vm.uuid, if lookup = .ip then key else vm.name, vm⟩)
  | .error (.vmNotFound _) => .ok none
  | .error e => .error e

def lookUp (lookup : Lookup) (key : String) (s : Site) : Protocol interface (Result Machine) :=
  onSession s.endpoint (.findMachine lookup s.datacenter key)

/-- Connects and looks a key up at a site; if the session is refused then, does both once more. -/
def findAt (p : Pool) (lookup : Lookup) (key : String) (s : Site) :
    Protocol interface (Result (Option Found)) := do
  match ← p.connectEndpoint s.endpoint with
  | .error err => return .error err
  | .ok () =>
    match ← lookUp lookup key s with
    | .error (.invalidCredentials _) =>
      match ← p.connectEndpoint s.endpoint with
      | .error err => return .error err
      | .ok () => return judge lookup key s (← lookUp lookup key s)
    | r => return judge lookup key s r

/-! ## Rounds -/

/-- One search through all endpoints. -/
structure Round where
  /-- By what it looks the machine up. -/
  lookup : Lookup
  /-- What it looks up. -/
  key : String
  deriving DecidableEq, Repr

namespace Round

abbrev interface : Interface := ⟨Round, fun _ => Outcome Found⟩

def search (p : Pool) (r : Round) : Search Pool.interface Site Found :=
  .within p.discovery (p.produceSites p.list) (p.findAt r.lookup r.key)

def conclude (r : Round) : Outcome Found → Result Found
  | .found f => .ok f
  | .failed e => .error e
  | .exhausted => .error (.vmNotFound (r.lookup.word ++ " " ++ r.key))

def make (r : Round) : Protocol interface (Result Found) := .call r fun o => .ret (r.conclude o)

end Round

/-- There is nothing to look up. -/
def isBlankId (lookup : Lookup) (id : String) : Bool :=
  match lookup with
  | .uuid => (canonicalize id).isEmpty
  | .name | .ip => id.isEmpty

/-- The rounds that find a machine. -/
def seek (lookup : Lookup) (id : String) : Protocol Round.interface (Result Found) :=
  if isBlankId lookup id then return .error (.vmNotFound "empty node identifier")
  else
    match lookup with
    | .uuid => Round.make ⟨.uuid, canonicalize id⟩
    | .ip => Round.make ⟨.ip, id⟩
    | .name => do
      match ← Round.make ⟨.name, id⟩ with
      | .ok f => return .ok f
      | .error _ => Round.make ⟨.ip, id⟩

/-- Finds a machine. -/
def find {σ : Type} (p : Pool) (h : interface.Handler σ) (lookup : Lookup) (id : String) (s : σ) :
    Result Found × σ :=
  (seek lookup id).run (fun r s => (r.search p).run pauses h s) s

end Pool

end NodeAtlas
