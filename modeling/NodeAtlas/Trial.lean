import NodeAtlas.Http.Script
import NodeAtlas.Http.Session
import NodeAtlas.Pool.Basic
import NodeAtlas.Secret.Manager
import NodeAtlas.Session.InMemory

/-!
# Trials

A world in which a pool can be tried out: endpoints in memory, clients of scripted servers,
credential managers over a snapshot of files, and a clock that only moves when somebody sleeps.
-/

namespace NodeAtlas

/-- What is behind the session of a tenant. -/
inductive Backend where
  /-- The endpoint in memory at an address. -/
  | memory (server : String)
  /-- A client and its scripted server. -/
  | http (client : Http.Client) (state : Http.ClientState Http.Script)

/-- A world for trials. -/
structure Trial where
  /-- What is behind the sessions of the tenants. -/
  backends : Dict Backend := ∅
  /-- The endpoints in memory by address. -/
  endpoints : Dict Session.InMemory := ∅
  /-- The credential managers by secret reference. -/
  managers : Dict Secret.Manager := ∅
  files : FileTree := .empty
  /-- The milliseconds that have passed. -/
  clock : Nat := 0

namespace Trial

/-- The reply of a tenant that has no session. -/
def noSession : (c : Session.Call) → Session.Reply c
  | .connect | .logout | .listDatacenters | .getDatacenter _ | .findMachine .. | .listHosts _
  | .hostTags _ => .error (.connection "no session")
  | .isConnected => false
  | .updateCredentials _ => ()

/-- Answers a call on the session of a tenant. -/
def onSession (w : Trial) (tenant : String) (c : Session.Call) : Session.Reply c × Trial :=
  match w.backends.find? tenant with
  | none => (noSession c, w)
  | some (.memory server) =>
    match w.endpoints.find? server with
    | none => (noSession c, w)
    | some m =>
      let r := Session.InMemory.handle c m
      (r.1, { w with endpoints := w.endpoints.insert server r.2 })
  | some (.http client state) =>
    let r := (client.answer c).run (Http.ClientState.handle Http.Script.receive) state
    (r.1, { w with backends := w.backends.insert tenant (.http client r.2) })

/-- Asks the manager under a secret reference. -/
def askManager (w : Trial) (secretRef server : String) : Result Credentials :=
  match w.managers.find? secretRef with
  | some m => m.credentials w.files server
  | none => .error (.credentialManagerNotFound secretRef)

/-- Answers the calls of a pool. -/
def handle : Pool.interface.Handler Trial
  | .session tenant c, w => w.onSession tenant c
  | .secret secretRef server, w => (w.askManager secretRef server, w)
  | .lock, w => ((), w)
  | .unlock, w => ((), w)
  | .sleep milliseconds, w => ((), { w with clock := w.clock + milliseconds })

/-- Finds the endpoint in memory for an endpoint. -/
def openMemory (w : Trial) (e : Endpoint) : Result Backend :=
  if w.endpoints.contains e.host then .ok (.memory e.host)
  else .error (.invalidConfiguration ("no fake for " ++ e.host))

/-- Hands the credentials of endpoints to those in memory, in their order. -/
def handCredentials (w : Trial) (es : List Endpoint) : Trial :=
  es.foldl (fun w e => { w with
    endpoints := w.endpoints.modify e.host fun m => { m with credentials := e.credentials } }) w

end Trial

end NodeAtlas
