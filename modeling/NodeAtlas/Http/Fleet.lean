import Mathlib.Logic.Function.Basic
import NodeAtlas.Http.History
import NodeAtlas.Pool.Connect

/-!
# Fleets of clients

The sessions of a pool are clients, each with a server of its own. The calls of the pool become calls of
its clients, in a world where every server may respond to a request or lose it.
-/

namespace NodeAtlas.Http

/-- The request that ends a session. -/
def farewell (url : Net.Url) (a : Auth) : Request :=
  { url := url, isPost := true, authorization := some a.token }

/-- The request of an exchange that sends one. -/
def sent? : interface.Exchange → Option Request
  | ⟨.send q, _⟩ => some q
  | _ => none

namespace Fleet

/-- The calls that are made when the sessions of a pool are clients. -/
inductive Call where
  | client (tenant : String) (c : Http.Call)
  /-- Asks the manager under a secret reference for the credentials of an endpoint address. -/
  | secret (secretRef server : String)
  | lock
  | unlock
  | sleep (milliseconds : Nat)

abbrev Reply : Call → Type
  | .client _ c => Http.Reply c
  | .secret .. => Result Credentials
  | .lock | .unlock | .sleep _ => Unit

/-- The calls of fleets as an interface. -/
abbrev interface : Interface := ⟨Call, Reply⟩

def ask (c : Call) : Protocol interface (Reply c) := .call c .ret

variable {α : Type}

/-- What the client of a tenant does. -/
def ofClient (tenant : String) (p : Protocol Http.interface α) : Protocol interface α :=
  p.interpret fun c => ask (.client tenant c)

def carry (clients : String → Client) : (c : Pool.Call) → Protocol interface (Pool.Reply c)
  | .session tenant c => ofClient tenant ((clients tenant).answer c)
  | .secret secretRef server => ask (.secret secretRef server)
  | .lock => ask .lock
  | .unlock => ask .unlock
  | .sleep milliseconds => ask (.sleep milliseconds)

/-- What a pool does whose sessions are clients. -/
def ofPool (clients : String → Client) (p : Protocol Pool.interface α) : Protocol interface α :=
  p.interpret (carry clients)

/-- The clients of all tenants beside their servers. Managers may answer anything. -/
abbrev world {σ : Type} (server : String → Server σ) : World interface where
  State := String → ClientState σ
  answers
    | w, .client tenant c, r, w' => ∃ s, (ClientState.world (server tenant)).answers (w tenant) c r s ∧
        w' = Function.update w tenant s
    | w, _, _, w' => w' = w

/-- The request that an exchange sends to the server of a tenant. -/
def sentTo? (tenant : String) : interface.Exchange → Option Request
  | ⟨.client t c, r⟩ => if t = tenant then sent? ⟨c, r⟩ else none
  | _ => none

/-- The requests sent to the server of a tenant. -/
def sent (tenant : String) (es : List interface.Exchange) : List Request := es.filterMap (sentTo? tenant)

end Fleet

end NodeAtlas.Http
