import NodeAtlas.Config.Shown
import NodeAtlas.Dict
import NodeAtlas.Endpoint
import NodeAtlas.Protocol.World
import NodeAtlas.Session.Basic

/-!
# Pools

A pool holds one endpoint for each tenant. Its operations call the sessions with the endpoints, ask
credential managers, and take turns at connecting.
-/

namespace NodeAtlas

open NodeAtlas.Text

/-- The endpoints of all tenants. -/
structure Pool where
  /-- The endpoints by tenant. -/
  endpoints : Dict Endpoint
  /-- The secret references under which credential managers are registered. -/
  managers : List String
  /-- The limits of searches. -/
  discovery : Config.Discovery

namespace Pool

/-- The calls that the operations of a pool make. -/
inductive Call where
  | session (tenant : String) (c : Session.Call)
  /-- Asks the manager under a secret reference for the credentials of an endpoint address. -/
  | secret (secretRef server : String)
  /-- Waits for its turn to connect. -/
  | lock
  /-- Ends its turn to connect. -/
  | unlock
  /-- Lets time pass. -/
  | sleep (milliseconds : Nat)
  deriving DecidableEq, Repr

abbrev Reply : Call → Type
  | .session _ c => Session.Reply c
  | .secret .. => Result Credentials
  | .lock | .unlock | .sleep _ => Unit

/-- The calls of pools as an interface. -/
abbrev interface : Interface := ⟨Call, Reply⟩

/-- Time passes during the call, so that others go on. -/
def pauses : Call → Bool
  | .sleep _ => true
  | _ => false

/-- Callers take turns at connecting. -/
def turns : Locking interface := ⟨(· = .lock), (· = .unlock)⟩

/-- Makes a call. -/
def ask (c : Call) : Protocol interface (Reply c) := .call c .ret

/-- Makes a call on the session of an endpoint. -/
def onSession (e : Endpoint) (c : Session.Call) : Protocol interface (Session.Reply c) :=
  ask (.session e.tenant c)

/-- A pool under construction, with the sessions opened by tenant. -/
abbrev Opening (σ : Type) := Dict Endpoint × Dict σ

/-- Opens sessions for further endpoints. -/
def openAll {σ : Type} (factory : Endpoint → Result σ) (o : Opening σ) :
    List Endpoint → Result (Opening σ)
  | [] => .ok o
  | e :: es =>
    if o.1.contains e.tenant then
      .error (.invalidConfiguration ("duplicate tenant reference: " ++ e.tenant))
    else
      match factory e with
      | .error err => .error err
      | .ok s => openAll factory (o.1.insert e.tenant e, o.2.insert e.tenant s) es

/-- A pool of endpoints, together with the sessions that a factory opens for them by tenant. Every
tenant has one endpoint. -/
def create {σ : Type} (endpoints : List Endpoint) (factory : Endpoint → Result σ)
    (managers : List String) (discovery : Config.Discovery) : Result (Pool × Dict σ) :=
  match openAll factory (∅, ∅) endpoints with
  | .error err => .error err
  | .ok o => .ok (⟨o.1, managers, discovery⟩, o.2)

/-- All endpoints in the order of their tenants. -/
def list (p : Pool) : List Endpoint := p.endpoints.values

def endpoint (p : Pool) (tenant : String) : Result Endpoint :=
  match p.endpoints.find? tenant with
  | some e => .ok e
  | none => .error (.endpointNotFound tenant)

/-- The pool as shown in logs. Its endpoints come in the order of their tenants. Logs may show the managers
in any order, here in the order in which the pool has them. -/
def describe (p : Pool) : String :=
  shownRecord "ConnectionManager" [("endpoints", shownList (p.endpoints.keys.map quoted)),
    ("credential_managers", shownList (p.managers.map quoted)),
    ("discovery", p.discovery.describe)]

/-- The connection to an endpoint as shown in logs. -/
def describeConnection (e : Endpoint) : String :=
  shownRecord "EndpointConnection" [("tenant_ref", quoted e.tenant), ("server", quoted e.host)]

end Pool

end NodeAtlas
