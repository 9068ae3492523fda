import NodeAtlas.Dict.Lemmas
import NodeAtlas.Http.Tenants
import NodeAtlas.Proofs.Http.Answers

/-!
# First logins

How a session fares that has not logged in yet, given what its server says to credentials, and how a
pool connects it with the help of a credential manager.
-/

namespace NodeAtlas.Http

open Protocol

/-! ## Sessions -/

variable {σ : Type} {server : Server σ} {x : Client} {s : ClientState σ}

theorem exists_url {path : String} (hjoin : ∃ url, x.baseUrl.join path = .ok url) :
    ∃ url, x.url path = .ok url := by
  obtain ⟨url, hurl⟩ := hjoin
  exact ⟨url, by rw [Client.url, hurl]⟩

theorem exists_loginUrl (x : Client) : ∃ url, x.url "api/v1/login" = .ok url :=
  exists_url ⟨_, rfl⟩

theorem run_ask {α : Type} (c : Call) (f : Reply c → Protocol interface α) (s : ClientState σ) :
    (ask c >>= f).run (ClientState.handle server) s =
      (f (ClientState.handle server c s).1).run (ClientState.handle server)
        (ClientState.handle server c s).2 := rfl

theorem login_of_error {c : Credentials} {err : Error} (hc : checkCredentials c = .error err) :
    x.login c = pure (.error err) := by
  unfold Client.login
  rw [hc]

theorem run_login {c : Credentials} (hc : checkCredentials c = .ok ()) {url : Net.Url}
    (hurl : x.url "api/v1/login" = .ok url) {y : Response}
    (hy : (server (loginRequest url c) s.server).1 = some y) :
    (x.login c).run (ClientState.handle server) s =
      (judgeLogin c y, (ClientState.handle server (.send (loginRequest url c)) s).2) := by
  have hsend : (ClientState.handle server (.send (loginRequest url c)) s).1 = some y := hy
  unfold Client.login
  rw [hc, hurl]
  dsimp only
  rw [run_ask, hsend]
  rfl

/-- Credentials that cannot be sent are not sent. -/
theorem run_refresh_of_error (server : Server σ) (x : Client) {err : Error}
    (hc : checkCredentials s.credentials = .error err) :
    ∃ t, x.refresh.run (ClientState.handle server) s = (.error err, t) ∧ t.session = none := by
  have hread : (ClientState.handle server .credentials s).1 = s.credentials := rfl
  unfold Client.refresh
  rw [run_ask, hread, login_of_error hc]
  exact ⟨_, rfl, rfl⟩

theorem run_refresh_of_response (hc : checkCredentials s.credentials = .ok ()) {url : Net.Url}
    (hurl : x.url "api/v1/login" = .ok url) {y : Response}
    (hy : (server (loginRequest url s.credentials) s.server).1 = some y) :
    ∃ t, x.refresh.run (ClientState.handle server) s =
        ((judgeLogin s.credentials y).map fun _ => (), t) ∧
      ∀ err, judgeLogin s.credentials y = .error err → t.session = none := by
  have hread : (ClientState.handle server .credentials s).1 = s.credentials := rfl
  have hstate : (ClientState.handle server .credentials s).2 = s.tick := rfl
  unfold Client.refresh
  rw [run_ask, hread, hstate, bind_eq, run_bind, run_login (s := s.tick) hc hurl hy]
  cases judgeLogin s.credentials y with
  | ok a => exact ⟨_, rfl, nofun⟩
  | error err => exact ⟨_, rfl, fun _ _ => rfl⟩

/-- Without a session a connect is a login, some moments later. -/
theorem run_connect (hs : s.session = none) :
    (x.answer .connect).run (ClientState.handle server) s =
      ((x.refresh.run (ClientState.handle server) s.tick.tick.tick).1,
        (x.refresh.run (ClientState.handle server) s.tick.tick.tick).2.tick) := by
  have hlook : (ClientState.handle server .isLive s).1 = false := isLiveAt_of_none (s := s.tick) hs _
  have hagain : (ClientState.handle server .isLive (ClientState.handle server .lock
      (ClientState.handle server .isLive s).2).2).1 = false :=
    isLiveAt_of_none (s := s.tick.tick.tick) hs _
  unfold Client.answer Client.ensure
  rw [run_ask, hlook]
  simp only [Bool.false_eq_true, if_false]
  rw [run_ask, run_ask, hagain]
  simp only [Bool.false_eq_true, if_false]
  rw [bind_eq, run_bind]
  rfl

theorem connect_of_error (server : Server σ) (x : Client) (hs : s.session = none) {err : Error}
    (hc : checkCredentials s.credentials = .error err) :
    ∃ t, (x.answer .connect).run (ClientState.handle server) s = (.error err, t) ∧
      t.session = none := by
  obtain ⟨t, ht, hnone⟩ := run_refresh_of_error server x (s := s.tick.tick.tick) hc
  rw [run_connect hs, ht]
  exact ⟨_, rfl, hnone⟩

theorem judgeLogin_of_grant {k : Credentials} {y : Response} {token : String}
    (hstatus : y.status = 200) (hread : readData readToken y.body = some token)
    (htoken : validateToken token = .ok ()) : judgeLogin k y = .ok ⟨token, k.username⟩ := by
  rw [judgeLogin, if_pos hstatus, grant, hread]
  dsimp only
  rw [htoken]

theorem judgeLogin_of_rejection {k : Credentials} {y : Response} (hstatus : y.status = 401) :
    judgeLogin k y = .error (.invalidCredentials ("login rejected for user " ++ k.username)) := by
  rw [judgeLogin, if_neg (by rw [hstatus]; decide), if_pos (.inl hstatus)]

/-- Credentials that the server knows open a session. -/
theorem connect_of_knows (hs : s.session = none) (hc : checkCredentials s.credentials = .ok ())
    (hserver : Knows server s.credentials) :
    ∃ t, (x.answer .connect).run (ClientState.handle server) s = (.ok (), t) := by
  obtain ⟨url, hurl⟩ := exists_loginUrl x
  obtain ⟨y, token, hy, hstatus, hread, htoken⟩ := hserver.grants url s.server
  obtain ⟨t, ht, -⟩ := run_refresh_of_response (s := s.tick.tick.tick) hc hurl hy
  rw [run_connect hs, ht]
  have hjudge : judgeLogin s.tick.tick.tick.credentials y = .ok ⟨token, s.credentials.username⟩ :=
    judgeLogin_of_grant hstatus hread htoken
  rw [hjudge]
  exact ⟨_, rfl⟩

/-- Credentials that the server does not know are refused. -/
theorem connect_of_stranger (hs : s.session = none) (hc : checkCredentials s.credentials = .ok ())
    {k : Credentials} (hserver : Knows server k) (hother : s.credentials ≠ k) :
    ∃ d t, (x.answer .connect).run (ClientState.handle server) s =
      (.error (.invalidCredentials d), t) ∧ t.session = none := by
  obtain ⟨url, hurl⟩ := exists_loginUrl x
  obtain ⟨y, hy, hstatus⟩ := hserver.rejects url s.server s.credentials hother
  obtain ⟨t, ht, hnone⟩ := run_refresh_of_response (s := s.tick.tick.tick) hc hurl hy
  have hjudge := judgeLogin_of_rejection (k := s.tick.tick.tick.credentials) hstatus
  rw [run_connect hs, ht, hjudge]
  exact ⟨_, _, rfl, hnone _ hjudge⟩

/-- Credentials that cannot be sent are none at all, or one of them is not valid. -/
theorem checkCredentials_cases (c : Credentials) :
    checkCredentials c = .ok () ∨
      checkCredentials c = .error (.invalidCredentials "no credentials available") ∨
      ∃ v, checkCredentials c = .error (.validation v) := by
  unfold checkCredentials
  split
  · exact .inr (.inl rfl)
  · split
    · exact .inl rfl
    · exact .inr (.inr ⟨_, rfl⟩)
    · exact .inr (.inr ⟨_, rfl⟩)

theorem checkCredentials_of_isEmpty {c : Credentials} (h : c.isEmpty = true) :
    checkCredentials c = .error (.invalidCredentials "no credentials available") := by
  rw [checkCredentials, if_pos h]

theorem isEmpty_of_checkCredentials {c : Credentials} {d : String}
    (h : checkCredentials c = .error (.invalidCredentials d)) : c.isEmpty = true := by
  unfold checkCredentials at h
  split at h
  · assumption
  · split at h <;> cases h

theorem checkCredentials_eq_ok_iff {c : Credentials} :
    checkCredentials c = .ok () ↔
      validateUsername c.username = .ok () ∧ validatePassword c.password = .ok () := by
  constructor
  · intro h
    unfold checkCredentials at h
    split at h
    · cases h
    · split at h
      · rename_i huser hpassword
        exact ⟨huser, hpassword⟩
      · cases h
      · cases h
  · rintro ⟨huser, hpassword⟩
    have hsome : c.isEmpty = false := by
      unfold Credentials.isEmpty
      cases hempty : c.username.isEmpty with
      | false => rfl
      | true =>
        rw [validateUsername, if_pos hempty] at huser
        cases huser
    rw [checkCredentials, if_neg (by rw [hsome]; exact Bool.false_ne_true), huser, hpassword]

/-! ## Pools -/

namespace Tenants

variable {server : String → Server σ} {w : Tenants σ} {p : Pool} {e : Endpoint}

theorem onSession_eq (server : String → Server σ) {tenant : String}
    (hfind : w.sessions.find? tenant = some (x, s)) {c : Session.Call} {r : Session.Reply c}
    {t : ClientState σ}
    (hrun : (x.answer c).run (ClientState.handle (server tenant)) s = (r, t)) :
    w.onSession server tenant c = (r, { w with sessions := w.sessions.insert tenant (x, t) }) := by
  unfold onSession
  rw [hfind]
  dsimp only
  rw [hrun]

theorem run_connectEndpoint (p : Pool) (e : Endpoint) (w : Tenants σ) :
    ((p.connectEndpoint e).run (handle server) w).1 =
      match w.onSession server e.tenant .connect with
      | (.error (.invalidCredentials _), w') => ((p.refresh e).run (handle server) w').1
      | (r, _) => r := by
  unfold Pool.connectEndpoint Pool.onSession Pool.ask
  simp only [bind_eq, Protocol.bind, Protocol.run]
  have hlock : handle server .lock w = ((), w) := rfl
  have hconnect : handle server (.session e.tenant .connect) w =
    w.onSession server e.tenant .connect := rfl
  rw [hlock, hconnect]
  rcases w.onSession server e.tenant .connect with ⟨err | u, w'⟩
  · cases err with
    | invalidCredentials d => exact congrArg Prod.fst (run_bind _ _ _ _)
    | _ => rfl
  · rfl

/-- Refused credentials are replaced by those of the manager. -/
theorem run_refresh (hmanaged : p.managers.contains e.secretRef = true) {k : Credentials}
    (hk : w.askManager e.secretRef e.host = .ok k) :
    ((p.refresh e).run (handle server) w).1 =
      ((w.onSession server e.tenant (.updateCredentials k)).2.onSession server e.tenant .connect).1 := by
  have hasked : handle server (.secret e.secretRef e.host) w = (.ok k, w) :=
    Prod.ext hk rfl
  rw [Pool.refresh, if_neg (by rw [hmanaged]; exact Bool.false_ne_true)]
  unfold Pool.onSession Pool.ask
  simp only [bind_eq, Protocol.bind, Protocol.run]
  rw [hasked]
  rfl

/-- Once its credentials are refused, an endpoint is connected with those of its manager, if the server
knows them. -/
theorem refresh_of_knows (hfind : w.sessions.find? e.tenant = some (x, s)) (hs : s.session = none)
    (hmanaged : p.managers.contains e.secretRef = true) {k : Credentials}
    (hk : w.askManager e.secretRef e.host = .ok k) (hvalid : checkCredentials k = .ok ())
    (hserver : Knows (server e.tenant) k) : ((p.refresh e).run (handle server) w).1 = .ok () := by
  have hupdate := onSession_eq server (c := .updateCredentials k) hfind rfl
  obtain ⟨t, ht⟩ := connect_of_knows (x := x) (s := { s.tick with credentials := k }) hs hvalid hserver
  rw [run_refresh hmanaged hk, hupdate]
  rw [onSession_eq server (x := x) (c := .connect) (Dict.find?_insert_self _ _ _) ht]

/-- With a manager whose credentials the server knows, a session is connected unless the credentials
that it begins with are neither absent nor valid. -/
theorem connectEndpoint_of_knows (hfind : w.sessions.find? e.tenant = some (x, s))
    (hs : s.session = none) (hmanaged : p.managers.contains e.secretRef = true) {k : Credentials}
    (hk : w.askManager e.secretRef e.host = .ok k) (hvalid : checkCredentials k = .ok ())
    (hserver : Knows (server e.tenant) k) :
    ((p.connectEndpoint e).run (handle server) w).1 =
      match checkCredentials s.credentials with
      | .error (.validation v) => .error (.validation v)
      | _ => .ok () := by
  have hrefused {d : String} {t : ClientState σ} (hrun : (x.answer .connect).run
      (ClientState.handle (server e.tenant)) s = (.error (.invalidCredentials d), t))
      (ht : t.session = none) : ((p.connectEndpoint e).run (handle server) w).1 = .ok () := by
    rw [run_connectEndpoint, onSession_eq server hfind hrun]
    exact refresh_of_knows (Dict.find?_insert_self _ _ _) ht hmanaged hk hvalid hserver
  rcases checkCredentials_cases s.credentials with hc | hc | ⟨v, hc⟩
  · rw [hc]
    by_cases hsame : s.credentials = k
    · obtain ⟨t, ht⟩ := connect_of_knows (x := x) hs hc (hsame ▸ hserver)
      rw [run_connectEndpoint, onSession_eq server hfind ht]
    · obtain ⟨d, t, hrun, ht⟩ := connect_of_stranger (x := x) hs hc hserver hsame
      exact hrefused hrun ht
  · obtain ⟨t, hrun, ht⟩ := connect_of_error (server e.tenant) x hs hc
    rw [hc]
    exact hrefused hrun ht
  · obtain ⟨t, hrun, -⟩ := connect_of_error (server e.tenant) x hs hc
    rw [hc, run_connectEndpoint, onSession_eq server hfind hrun]

end Tenants

end NodeAtlas.Http
