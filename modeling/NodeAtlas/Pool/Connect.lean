import NodeAtlas.Pool.Basic

/-!
# Connecting

How a pool logs in to its endpoints. Refused credentials are replaced once by those of the
endpoint's credential manager, and an endpoint that cannot be reached is tried again after a pause.
Only one caller at a time connects.
-/

namespace NodeAtlas.Pool

/-- Replaces the credentials of an endpoint by those of its manager and connects again. -/
def refresh (p : Pool) (e : Endpoint) : Protocol interface (Result Unit) :=
  if !p.managers.contains e.secretRef then
    return .error (.credentialManagerNotFound e.secretRef)
  else do
    match ← ask (.secret e.secretRef e.host) with
    | .error err => return .error err
    | .ok credentials =>
      onSession e (.updateCredentials credentials)
      onSession e .connect

/-- Connects the session of an endpoint when it is its turn. -/
def connectEndpoint (p : Pool) (e : Endpoint) : Protocol interface (Result Unit) := do
  ask .lock
  let r ← onSession e .connect
  let r ← match r with
    | .error (.invalidCredentials _) => p.refresh e
    | r => pure r
  ask .unlock
  return r

/-- Connects the session of a tenant. -/
def connect (p : Pool) (tenant : String) : Protocol interface (Result Unit) :=
  match p.endpoint tenant with
  | .error err => return .error err
  | .ok e => p.connectEndpoint e

/-- Connects up to `attempts + 1` times as long as the failure is transient, with a pause after each
failure but the last. -/
def retry (p : Pool) (e : Endpoint) : (attempts : Nat) → Protocol interface (Result Unit)
  | 0 => p.connectEndpoint e
  | attempts + 1 => do
    match ← p.connectEndpoint e with
    | .error err =>
      if err.isTransient then
        ask (.sleep p.discovery.retryDelay.toNat)
        retry p e attempts
      else return .error err
    | .ok () => return .ok ()

/-- Connects with the configured number of attempts, which is at least one. -/
def connectWithRetry (p : Pool) (e : Endpoint) : Protocol interface (Result Unit) :=
  p.retry e (p.discovery.connectionAttempts.toNat - 1)

/-- Connects the endpoints in turn up to the first failure. -/
def connectAll (p : Pool) : List Endpoint → Protocol interface (Result Unit)
  | [] => return .ok ()
  | e :: es => do
    match ← p.connectEndpoint e with
    | .error err => return .error err
    | .ok () => connectAll p es

/-- Connects every endpoint; the first failure is returned. -/
def verify (p : Pool) : Protocol interface (Result Unit) := p.connectAll p.list

/-- Logs out of the endpoints whose session is live, whether or not they answer. -/
def logoutAll : List Endpoint → Protocol interface Unit
  | [] => return
  | e :: es => do
    if ← onSession e .isConnected then
      let _ ← onSession e .logout
    logoutAll es

/-- Closes every live session. -/
def logout (p : Pool) : Protocol interface Unit := logoutAll p.list

/-! ## Datacenters -/

/-- The datacenters found on an endpoint, and the lookups that failed. -/
structure Scan where
  /-- The datacenters in the order in which they were found. -/
  found : List Datacenter := []
  /-- The failures in the order in which they came. -/
  failures : List Error := []

/-- Looks up datacenters by name. -/
def lookupAll (e : Endpoint) (s : Scan) : List String → Protocol interface Scan
  | [] => return s
  | name :: names => do
    match ← onSession e (.getDatacenter name) with
    | .ok d => lookupAll e { s with found := s.found ++ [d] } names
    | .error err => lookupAll e { s with failures := s.failures ++ [err] } names

/-- The datacenters of a connected endpoint that count: the configured ones, or all. -/
def scan (e : Endpoint) : Protocol interface Scan :=
  if e.datacenters.isEmpty then do
    match ← onSession e .listDatacenters with
    | .ok ds => return { found := ds }
    | .error err => return { failures := [err] }
  else lookupAll e {} e.datacenters

end NodeAtlas.Pool
