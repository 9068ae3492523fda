import NodeAtlas.Provider
import NodeAtlas.Trial

/-!
# Clients of all tenants

The sessions of a pool when they are clients of servers, and credentials come from managers over a
snapshot of files.
-/

namespace NodeAtlas.Http

/-- The clients of all tenants with the states of their servers, beside the credential managers. -/
structure Tenants (σ : Type) where
  sessions : Dict (Client × ClientState σ)
  /-- The credential managers by secret reference. -/
  managers : Dict Secret.Manager
  files : FileTree

namespace Tenants

variable {σ : Type}

/-- Makes a call on the session of a tenant. -/
def onSession (server : String → Server σ) (w : Tenants σ) (tenant : String) (c : Session.Call) :
    Session.Reply c × Tenants σ :=
  match w.sessions.find? tenant with
  | none => (Trial.noSession c, w)
  | some (x, s) =>
    let r := (x.answer c).run (ClientState.handle (server tenant)) s
    (r.1, { w with sessions := w.sessions.insert tenant (x, r.2) })

/-- Asks the manager under a secret reference. -/
def askManager (w : Tenants σ) (secretRef address : String) : Result Credentials :=
  match w.managers.find? secretRef with
  | some m => m.credentials w.files address
  | none => .error (.credentialManagerNotFound secretRef)

/-- Answers the calls of a pool, given the servers of the tenants. -/
def handle (server : String → Server σ) : Pool.interface.Handler (Tenants σ)
  | .session tenant c, w => w.onSession server tenant c
  | .secret secretRef address, w => (w.askManager secretRef address, w)
  | .lock, w => ((), w)
  | .unlock, w => ((), w)
  | .sleep _, w => ((), w)

/-- Opens a session that has not logged in yet, beside a server in its first state. -/
def openSession (first : String → σ) (c : Config) (e : Endpoint) : Result (Client × ClientState σ) :=
  (Provider.openHttp c e).map fun x =>
    (x, .start e.credentials c.global.sessionLifetime.toNat (first e.tenant))

end Tenants

/-- A server that grants a valid token for exactly these credentials. -/
structure Knows {σ : Type} (server : Server σ) (k : Credentials) : Prop where
  grants : ∀ url s, ∃ y token, (server (loginRequest url k) s).1 = some y ∧ y.status = 200 ∧
    readData readToken y.body = some token ∧ validateToken token = .ok ()
  rejects : ∀ url s c, c ≠ k →
    ∃ y, (server (loginRequest url c) s).1 = some y ∧ y.status = 401

end NodeAtlas.Http

namespace NodeAtlas.Secret

open NodeAtlas.Text

/-- For an address, a directory holds files with these credentials, perhaps between blank
characters. -/
def Holds (files : FileTree) (directory address : String) (k : Credentials) : Prop :=
  (∃ raw, files.readText? (FileTree.joinPath directory (address ++ ".username")) = some raw ∧
    trim raw = k.username) ∧
  ∃ raw, files.readText? (FileTree.joinPath directory (address ++ ".password")) = some raw ∧
    trim raw = k.password

end NodeAtlas.Secret
