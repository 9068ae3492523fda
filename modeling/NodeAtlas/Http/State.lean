import NodeAtlas.Http.Client

/-!
# Clients and their servers

What a client remembers between its calls, beside a server that responds to its requests. Every call
takes a moment, so that a session grows older between any two of them. The clock only goes forward: what a
client makes of a session when the clock is set back is left out.
-/

namespace NodeAtlas.Http

/-- The state of a client beside a server with states of type `σ`. Its clock is assumed not to step back, so
that no session has begun later than now. -/
structure ClientState (σ : Type) where
  credentials : Credentials
  /-- The age in nanoseconds up to which a session counts as live. -/
  lifetime : Nat
  server : σ
  /-- The proof of the session with the time of its login. -/
  session : Option (Auth × Nat) := none
  /-- The time in nanoseconds. -/
  clock : Nat := 0
  since_le_clock : ∀ p ∈ session, p.2 ≤ clock := by simp

/-- How a server takes a request: it responds, unless the request or the response gets lost. -/
abbrev Server (σ : Type) : Type := Request → σ → Option Response × σ

namespace ClientState

variable {σ : Type}

/-- A client at its beginning, whose sessions live for a number of seconds. -/
def start (credentials : Credentials) (seconds : Nat) (server : σ) : ClientState σ :=
  { credentials := credentials, lifetime := seconds * 1000000000, server := server }

/-- The proof of the session. -/
def auth (s : ClientState σ) : Option Auth := s.session.map (·.1)

/-- At a time, there is a session that has begun and is not too old. -/
def isLiveAt (s : ClientState σ) (clock : Nat) : Bool :=
  s.session.any fun p => p.2 ≤ clock && clock - p.2 ≤ s.lifetime

/-- There is a session that is not too old. -/
def isLive (s : ClientState σ) : Bool := s.isLiveAt s.clock

/-- Time passes. -/
def wait (s : ClientState σ) (clock : Nat) (h : s.clock ≤ clock) : ClientState σ :=
  { s with
    clock := clock
    since_le_clock := fun p hp => Nat.le_trans (s.since_le_clock p hp) h }

/-- A moment passes. -/
def tick (s : ClientState σ) : ClientState σ := s.wait (s.clock + 1) (Nat.le_succ _)

/-- The session becomes another one, which begins now, or comes to its end. -/
def hold (s : ClientState σ) (a : Option Auth) : ClientState σ :=
  { s with
    session := a.map fun a => (a, s.clock)
    since_le_clock := by
      intro p hp
      obtain ⟨b, -, rfl⟩ := Option.map_eq_some_iff.mp hp
      exact Nat.le_refl _ }

/-- Answers a call in no time. -/
def answer (server : Server σ) : interface.Handler (ClientState σ)
  | .send r, s =>
    let (response, state) := server r s.server
    (response, { s with server := state })
  | .auth, s => (s.auth, s)
  | .isLive, s => (s.isLive, s)
  | .setAuth a, s => ((), s.hold a)
  | .takeAuth, s => (s.auth, s.hold none)
  | .credentials, s => (s.credentials, s)
  | .setCredentials c, s => ((), { s with credentials := c })
  | .lock, s => ((), s)
  | .unlock, s => ((), s)

/-- Answers the calls of a client. -/
def handle (server : Server σ) : interface.Handler (ClientState σ) :=
  fun c s => answer server c s.tick

end ClientState

end NodeAtlas.Http
