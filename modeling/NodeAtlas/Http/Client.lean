import NodeAtlas.Credentials
import NodeAtlas.Http.Message
import NodeAtlas.Json.Reader
import NodeAtlas.Json.Record
import NodeAtlas.Protocol.World
import NodeAtlas.Text.Shown

/-!
# Clients

A client holds a session with the server of one endpoint. It logs in when it has to, and once more
when the server refuses the session in the middle of a request. Callers that find the session gone
take turns, so that one of them logs in for all.
-/

namespace NodeAtlas.Http

open NodeAtlas.Json NodeAtlas.Net NodeAtlas.Text

/-- The proof of a session. -/
structure Auth where
  token : String
  /-- The user that has logged in. -/
  user : String
  deriving DecidableEq, Repr, Inhabited

/-! ## Calls -/

/-- The calls of a client. -/
inductive Call where
  /-- Sends a request; there is no response if it does not get through. One such call is one exchange of
  the library for HTTP, with its final response: where the library follows redirects before that is left
  to it. -/
  | send (r : Request)
  /-- Reads the proof of the session. -/
  | auth
  /-- Asks whether there is a session that is not too old. -/
  | isLive
  /-- Replaces the proof of the session. -/
  | setAuth (a : Option Auth)
  /-- Takes the proof of the session away. -/
  | takeAuth
  /-- Reads the credentials. -/
  | credentials
  /-- Replaces the credentials. -/
  | setCredentials (c : Credentials)
  /-- Waits for its turn to log in. -/
  | lock
  /-- Ends its turn to log in. -/
  | unlock

abbrev Reply : Call → Type
  | .send _ => Option Response
  | .auth | .takeAuth => Option Auth
  | .isLive => Bool
  | .setAuth _ | .setCredentials _ | .lock | .unlock => Unit
  | .credentials => Credentials

/-- The calls of a client as an interface. -/
abbrev interface : Interface := ⟨Call, Reply⟩

/-- The call takes the lock for logins. -/
def Call.takesLock : Call → Bool
  | .lock => true
  | _ => false

/-- The call gives the lock for logins back. -/
def Call.givesLock : Call → Bool
  | .unlock => true
  | _ => false

/-- Callers take turns at logging in. -/
def turns : Locking interface := ⟨Call.takesLock, Call.givesLock⟩

/-- Makes a call. -/
def ask (c : Call) : Protocol interface (Reply c) := .call c .ret

/-- What a client is for: the root of its server, and the address that it is known by. -/
structure Client where
  /-- The root of the server. -/
  baseUrl : Url
  /-- The address of the endpoint. -/
  server : String
  /-- Its requests are limited. -/
  isLimited : Bool := false
  deriving DecidableEq, Repr

/-- The client as shown in logs. -/
def Client.describe (x : Client) : String :=
  shownRecord "ApiClient" [("base_url", quoted x.baseUrl.render), ("endpoint", quoted x.server),
    ("rate_limited", shownTruth x.isLimited)]

/-! ## Login and logout -/

/-- Reads the value under `data` of an answer. -/
def readData {α : Type} (read : Json → Option α) (body : String) : Option α :=
  match (Json.parse? body).bind (slots? [["data"]]) with
  | some [data] => required read data
  | _ => none

/-- Reads the token of a login. -/
def readToken (v : Json) : Option String :=
  match slots? [["token", "sessionId"]] v with
  | some [token] => required asText token
  | _ => none

/-- The proof of the session that a server grants. -/
def grant (c : Credentials) (body : String) : Result Auth :=
  match readData readToken body with
  | none => .error (.connection "Failed to parse login response")
  | some token =>
    match validateToken token with
    | .error e => .error (.validation e)
    | .ok () => .ok ⟨token, c.username⟩

/-- The result of a login that the server has answered. -/
def judgeLogin (c : Credentials) (r : Response) : Result Auth :=
  if r.status = 200 then grant c r.body
  else if r.status = 401 ∨ r.status = 403 then
    .error (.invalidCredentials ("login rejected for user " ++ c.username))
  else if r.status = 400 then .error (.validation (.field "request" "Invalid request format"))
  else if r.status = 404 then .error (.connection "Login endpoint not found")
  else if r.status = 503 then .error (.connection "iCenter service is currently unavailable")
  else .error (.connection ("Unexpected response status: " ++ statusText r.status))

/-- Credentials that can be sent. -/
def checkCredentials (c : Credentials) : Result Unit :=
  if c.isEmpty then .error (.invalidCredentials "no credentials available")
  else
    match validateUsername c.username, validatePassword c.password with
    | .ok (), .ok () => .ok ()
    | .ok (), .error e => .error (.validation e)
    | .error e, _ => .error (.validation e)

/-- Resolves a path against the root of the server. -/
def Client.url (x : Client) (path : String) : Result Url :=
  match x.baseUrl.join path with
  | .ok u => .ok u
  | .error fault => .error (.invalidConfiguration ("invalid URL: " ++ fault.message))

def loginRequest (url : Url) (c : Credentials) : Request :=
  { url := url
    isPost := true
    body := some (record [("username", text c.username), ("password", text c.password)]) }

/-- Logs in with credentials. -/
def Client.login (x : Client) (c : Credentials) : Protocol interface (Result Auth) :=
  match checkCredentials c, x.url "api/v1/login" with
  | .error e, _ => return .error e
  | .ok (), .error e => return .error e
  | .ok (), .ok url => do
    match ← ask (.send (loginRequest url c)) with
    | none => return .error (.connection "transport failure")
    | some r => return judgeLogin c r

/-- The result of a logout that the server has answered. A session that is unknown is closed
already. -/
def judgeLogout (r : Response) : Result Unit :=
  if r.isSuccess ∨ r.status = 401 then .ok ()
  else .error (.connection ("Logout failed with status: " ++ statusText r.status))

/-- Closes the session, if there is one. -/
def Client.logout (x : Client) : Protocol interface (Result Unit) := do
  match ← ask .takeAuth with
  | none => return .ok ()
  | some a =>
    match x.url "api/v1/logout" with
    | .error e => return .error e
    | .ok url =>
      match ← ask (.send { url := url, isPost := true, authorization := some a.token }) with
      | none => return .error (.connection "transport failure")
      | some r => return judgeLogout r

/-! ## Sessions -/

/-- Logs in with the stored credentials. A login that fails ends the session. -/
def Client.refresh (x : Client) : Protocol interface (Result Unit) := do
  let c ← ask .credentials
  match ← x.login c with
  | .ok a =>
    ask (.setAuth (some a))
    return .ok ()
  | .error e =>
    ask (.setAuth none)
    return .error e

/-- Logs in unless there is a live session. -/
def Client.ensure (x : Client) : Protocol interface (Result Unit) := do
  if ← ask .isLive then return .ok ()
  ask .lock
  let r ← if ← ask .isLive then pure (.ok ()) else x.refresh
  ask .unlock
  return r

/-- The token of the session, if there is one. -/
def currentToken : Protocol interface (Option String) := do
  return (← ask .auth).map (·.token)

/-- Logs in again after a token was refused, unless another token has taken its place. -/
def Client.relogin (x : Client) (rejected : Option String) : Protocol interface (Result Unit) := do
  ask .lock
  let current ← currentToken
  let r ← if current.isSome ∧ current ≠ rejected then pure (.ok ()) else x.refresh
  ask .unlock
  return r

/-! ## Data -/

/-- Sends a request for data. -/
def get (url : Url) (query : List (String × String)) (token : Option String) :
    Protocol interface (Option Response) :=
  ask (.send { url := url.withPairs query, authorization := token })

/-- The address of data. -/
def Client.dataUrl (x : Client) (path : String) : Result Url :=
  match x.url "api/v1/" with
  | .error e => .error e
  | .ok root =>
    match root.join (String.ofList (path.toList.dropWhile (· == '/'))) with
    | .ok u => .ok u
    | .error fault => .error (.invalidConfiguration ("invalid URL: " ++ fault.message))

/-- The data in the last response to a request; there may be nothing at the address. -/
def judgeData {α : Type} (server : String) (read : Json → Option α) :
    Option Response → Result (Option α)
  | none => .error (.connection "HTTP request failed")
  | some r =>
    if r.status = 404 then .ok none
    else if r.status = 401 then
      .error (.invalidCredentials ("session rejected by " ++ server ++ " after re-login"))
    else if !r.isSuccess then
      .error (.connection ("API error (" ++ statusText r.status ++ "): " ++ r.text))
    else
      match readData read r.body with
      | some a => .ok (some a)
      | none => .error (.connection "Failed to parse response")

/-- Requests data within a session. If the session is refused, logs in again and repeats the
request. -/
def Client.data {α : Type} (x : Client) (read : Json → Option α) (path : String)
    (query : List (String × String)) : Protocol interface (Result (Option α)) := do
  match ← x.ensure with
  | .error e => return .error e
  | .ok () =>
    match x.dataUrl path with
    | .error e => return .error e
    | .ok url =>
      let token ← currentToken
      let r ← get url query token
      if r.any (·.status == 401) then
        match ← x.relogin token with
        | .error e => return .error e
        | .ok () => return judgeData x.server read (← get url query (← currentToken))
      else return judgeData x.server read r

end NodeAtlas.Http
