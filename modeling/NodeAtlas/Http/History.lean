import NodeAtlas.Http.Trace
import NodeAtlas.Protocol.Solo

/-!
# Histories of a client

What a client does while its calls come one after another. It logs in, requests data and logs out, and
these acts alone decide which session it holds.
-/

namespace NodeAtlas.Http

open NodeAtlas.Json

/-! ## Acts -/

/-- Something that a client does to its session or asks of its server. -/
inductive Act where
  /-- A login with credentials, and what came of it. -/
  | login (c : Credentials) (r : Result Auth)
  /-- A request for data with its response. -/
  | get (q : Request) (r : Option Response)
  | logout (r : Result Unit)

/-- The call neither reaches the server nor changes the session. -/
def Call.isAside : Call → Bool
  | .isLive | .auth | .lock | .unlock | .setCredentials _ => true
  | _ => false

inductive Tells (x : Client) : List interface.Exchange → List Act → Prop where
  | nil : Tells x [] []
  | aside {y : interface.Exchange} {es : List interface.Exchange} {as : List Act}
      (hy : y.1.isAside = true) (h : Tells x es as) : Tells x (y :: es) as
  /-- The credentials are read, and what comes of the login takes the place of the session. -/
  | login {c : Credentials} {r : Result Auth} {xs es : List interface.Exchange} {as : List Act}
      (hlogin : (x.login c).Yields xs r) (h : Tells x es as) :
      Tells x (⟨.credentials, c⟩ :: xs ++ ⟨.setAuth r.toOption, ()⟩ :: es) (.login c r :: as)
  | get {q : Request} {r : Option Response} {es : List interface.Exchange} {as : List Act}
      (hq : q.isPost = false) (h : Tells x es as) : Tells x (⟨.send q, r⟩ :: es) (.get q r :: as)
  | logout {r : Result Unit} {xs es : List interface.Exchange} {as : List Act}
      (hlogout : x.logout.Yields xs r) (h : Tells x es as) : Tells x (xs ++ es) (.logout r :: as)

/-- The session after an act. -/
def Act.hold (a : Option Auth) : Act → Option Auth
  | .login _ r => r.toOption
  | .get .. => a
  | .logout _ => none

/-- The session after acts of a client that began without one. -/
def held (as : List Act) : Option Auth := as.foldl Act.hold none

/-- The last login has led to this session, and nothing but requests for data came after it. -/
def LoggedIn (as : List Act) (a : Auth) : Prop :=
  ∃ before c after, as = before ++ .login c (.ok a) :: after ∧ ∀ act ∈ after, ∃ q r, act = .get q r

/-- A request for data carries the token of the session. -/
def Act.Bears (a : Option Auth) : Act → Prop
  | .get q _ => ∃ b, a = some b ∧ q.authorization = some b.token
  | .login .. | .logout _ => True

/-- Every request for data carries the token of the session at its time. -/
def Bear (a : Option Auth) : List Act → Prop
  | [] => True
  | act :: as => act.Bears a ∧ Bear (act.hold a) as

/-! ## Requests for data -/

/-- The session that is live at a time, as long as the client is left alone. -/
def ClientState.liveAt {σ : Type} (s : ClientState σ) (clock : Nat) : Option Auth :=
  if s.isLiveAt clock then s.auth else none

/-- How a client comes to a session: it holds a live one, or it logs in. -/
inductive Opening (c : Credentials) : Option Auth → List Act → Result Auth → Prop where
  | live (a : Auth) : Opening c (some a) [] (.ok a)
  | login (r : Result Auth) : Opening c none [.login c r] r

/-- The request for data that carries the token of a session. -/
def inquiry (url : Net.Url) (query : List (String × String)) (a : Auth) : Request :=
  { url := url.withPairs query, authorization := some a.token }

/-- The server has refused the session. -/
def isRefusal (r : Option Response) : Bool := r.any (·.status == 401)

/-- What the last response to a request for data comes to. -/
inductive Judged {α : Type} (read : Json → Option α) :
    Option Response → Result (Option α) → Prop where
  | lost (d : String) : Judged read none (.error (.connection d))
  | absent {y : Response} (h : y.status = 404) : Judged read (some y) (.ok none)
  | refused {y : Response} (h : y.status = 401) (d : String) :
      Judged read (some y) (.error (.invalidCredentials d))
  | failed {y : Response} (habsent : y.status ≠ 404) (hrefused : y.status ≠ 401)
      (h : y.isSuccess = false) (d : String) : Judged read (some y) (.error (.connection d))
  | unreadable {y : Response} (h : y.isSuccess = true) (hread : readData read y.body = none)
      (d : String) : Judged read (some y) (.error (.connection d))
  | read {y : Response} (h : y.isSuccess = true) {v : α} (hread : readData read y.body = some v) :
      Judged read (some y) (.ok (some v))

/-- The last act is a login that has failed. -/
def Barred (as : List Act) : Prop := ∃ before c e, as = before ++ [.login c (.error e)]

/-- The last act is a request in a session that has just begun and is refused at once. -/
def Spurned (as : List Act) (a : Auth) : Prop :=
  ∃ before c q r, as = before ++ [.login c (.ok a), .get q r] ∧ isRefusal r = true

/-- How a request for data goes, given the live session at its beginning: the acts, the result and the
session at its end. -/
inductive Course {α : Type} (x : Client) (c : Credentials) (read : Json → Option α) (path : String)
    (query : List (String × String)) :
    Option Auth → List Act → Result (Option α) → Option Auth → Prop where
  /-- There is no session, and the login fails. -/
  | closed {live : Option Auth} {as : List Act} {e : Error} (h : Opening c live as (.error e)) :
      Course x c read path query live as (.error e) none
  /-- There is no address to send the request to. -/
  | astray {live : Option Auth} {as : List Act} {a : Auth} {e : Error}
      (h : Opening c live as (.ok a)) (hurl : x.dataUrl path = .error e) :
      Course x c read path query live as (.error e) (some a)
  /-- The session is not refused. -/
  | served {live : Option Auth} {as : List Act} {a : Auth} {url : Net.Url}
      (h : Opening c live as (.ok a)) (hurl : x.dataUrl path = .ok url) {r : Option Response}
      (hr : isRefusal r = false) :
      Course x c read path query live (as ++ [.get (inquiry url query a) r])
        (judgeData x.server read r) (some a)
  /-- The session is refused, and the second login fails. -/
  | lost {live : Option Auth} {as : List Act} {a : Auth} {url : Net.Url} {e : Error}
      (h : Opening c live as (.ok a)) (hurl : x.dataUrl path = .ok url) {r : Option Response}
      (hr : isRefusal r = true) :
      Course x c read path query live
        (as ++ [.get (inquiry url query a) r, .login c (.error e)]) (.error e) none
  /-- The session is refused, and the request is repeated in another one. -/
  | renewed {live : Option Auth} {as : List Act} {a b : Auth} {url : Net.Url}
      (h : Opening c live as (.ok a)) (hurl : x.dataUrl path = .ok url) {r : Option Response}
      (hr : isRefusal r = true) (r' : Option Response) :
      Course x c read path query live
        (as ++ [.get (inquiry url query a) r, .login c (.ok b), .get (inquiry url query b) r'])
        (judgeData x.server read r') (some b)

/-- How the requests for data of one call go, one after another up to the first that fails. -/
inductive Courses {σ : Type} (x : Client) :
    ClientState σ → List Act → Option Error → ClientState σ → Prop where
  | done (s : ClientState σ) : Courses x s [] none s
  | failed {α : Type} {read : Json → Option α} {path : String} {query : List (String × String)}
      {s s' : ClientState σ} {clock : Nat} {as : List Act} {e : Error} (hclock : s.clock ≤ clock)
      (h : Course x s.credentials read path query (s.liveAt clock) as (.error e) s'.auth) :
      Courses x s as (some e) s'
  | step {α : Type} {read : Json → Option α} {path : String} {query : List (String × String)}
      {s t s' : ClientState σ} {clock : Nat} {as bs : List Act} {v : Option α} {e : Option Error}
      (hclock : s.clock ≤ clock)
      (h : Course x s.credentials read path query (s.liveAt clock) as (.ok v) t.auth)
      (ht : t.credentials = s.credentials) (hrest : Courses x t bs e s') :
      Courses x s (as ++ bs) e s'

/-! ## Histories -/

end NodeAtlas.Http

namespace NodeAtlas.Session

/-- The call asks for data. -/
def Call.wantsData : Call → Bool
  | .connect | .logout | .isConnected | .updateCredentials _ => false
  | _ => true

def error? : (c : Call) → Reply c → Option Error
  | .connect, .error e | .logout, .error e | .listDatacenters, .error e
  | .getDatacenter _, .error e | .findMachine .., .error e | .listHosts _, .error e
  | .hostTags _, .error e => some e
  | _, _ => none

end NodeAtlas.Session

namespace NodeAtlas.Http

/-- A call on a session with its reply, and the exchanges that it took. -/
structure Deed where
  call : Session.interface.Exchange
  exchanges : List interface.Exchange

/-- Calls on the session of a client one after another. -/
inductive History {σ : Type} (x : Client) (server : Server σ) :
    ClientState σ → List Deed → ClientState σ → Prop where
  | nil (s : ClientState σ) : History x server s [] s
  | snoc {s s' s'' : ClientState σ} {ds : List Deed} {c : Session.Call} {r : Session.Reply c}
      {es : List interface.Exchange} (h : History x server s ds s')
      (hc : (x.answer c).Solo (ClientState.world server) s' es r s'') :
      History x server s (ds ++ [⟨⟨c, r⟩, es⟩]) s''

end NodeAtlas.Http
