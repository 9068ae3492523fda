import NodeAtlas.Http.Session
import NodeAtlas.Http.State

/-!
# Traces of a client

Callers that share a client take their turns in a world where any time may pass between two answers.
What has happened so far tells which tokens the server has refused and how many logins there were.
-/

namespace NodeAtlas

/-- The exchange of a step, if the protocol was not abandoned. -/
def Interleaving.Event.exchange? {I : Interface} : Interleaving.Event I → Option I.Exchange
  | .answered _ x => some x
  | .abandoned _ => none

namespace Http

open NodeAtlas.Json
open NodeAtlas.Interleaving (Event)

/-- The request is a login, as no other one submits anything. -/
def Request.isLogin (q : Request) : Bool := q.isPost && q.body.isSome

/-- The token of a request for data that was refused. -/
def refused? : interface.Exchange → Option String
  | ⟨.send q, some r⟩ => if !q.isPost && r.status == 401 then q.authorization else none
  | _ => none

/-- The tokens that were refused. -/
def refused (es : List (Event interface)) : List String :=
  (es.filterMap Event.exchange?).filterMap refused?

/-- A login is sent. -/
def isLogin : interface.Exchange → Bool
  | ⟨.send q, _⟩ => q.isLogin
  | _ => false

/-- The number of logins. -/
def logins (es : List (Event interface)) : Nat := (es.filterMap Event.exchange?).countP isLogin

/-- The caller has sent a login and waits for the response. -/
def LoggingIn {α W : Type} (s : Interleaving interface α W) (i : Nat) : Prop :=
  ∃ q next, s.threads[i]? = some (some (.call (.send q) next)) ∧ q.isLogin = true

namespace ClientState

variable {σ : Type}

/-- A client and its server, which answer at once or at any later time, but never earlier: the clock is
assumed not to step back. -/
abbrev world (server : Server σ) : World interface where
  State := ClientState σ
  answers s c r s' := ∃ clock, ∃ h : s.clock ≤ clock, (r, s') = answer server c (s.wait clock h)

/-- The token of the session. -/
def token (s : ClientState σ) : Option String := s.auth.map (·.token)

/-- There is no session, or it is too old, or its token was refused. -/
def Stale (es : List (Event interface)) (s : ClientState σ) : Prop :=
  ∀ a since, s.session = some (a, since) → s.lifetime < s.clock - since ∨ a.token ∈ refused es

end ClientState

/-- What a caller wants to know from the server. -/
structure Fetch (β : Type) where
  {α : Type}
  /-- How the data is read. -/
  read : Json → Option α
  path : String
  query : List (String × String)
  /-- What is made of the data. -/
  finish : Result (Option α) → β

/-- Asks for the data. -/
def Fetch.protocol {β : Type} (x : Client) (f : Fetch β) : Protocol interface β :=
  f.finish <$> x.data f.read f.path f.query

/-- A server that grants every login a token other than the former one. From then on it accepts this
token in requests for data, while it refuses the former one. -/
structure Welcoming {σ : Type} (server : Server σ) (c : Credentials) (former : Option String)
    (accepts : σ → String → Prop) : Prop where
  grants : ∀ url s, ∃ r a, (server (loginRequest url c) s).1 = some r ∧ judgeLogin c r = .ok a ∧
    some a.token ≠ former ∧ accepts (server (loginRequest url c) s).2 a.token
  answers : ∀ q s token, q.isPost = false → q.authorization = some token → accepts s token →
    ∃ r, (server q s).1 = some r ∧ r.status ≠ 401
  remembers : ∀ q s token, q.isPost = false → accepts s token → accepts (server q s).2 token
  refuses : ∀ q s token, q.isPost = false → q.authorization = some token → former = some token →
    ∃ r, (server q s).1 = some r ∧ r.status = 401

end Http

end NodeAtlas
