import NodeAtlas.Proofs.Config.Resolution
import NodeAtlas.Proofs.Http.FirstLogin
import NodeAtlas.Proofs.Pool.Create
import NodeAtlas.Proofs.Text.Trim

/-!
# Logins with secrets

A provider that is configured with a directory of secrets asks it for credentials when an endpoint
refuses those that it began with. Whether it comes so far depends on what the section of the endpoint
says about user and password.
-/

namespace NodeAtlas

open Protocol NodeAtlas.Text

/-! ## Configuration -/

namespace Config

/-- Endpoints without a secret of their own share the global one. -/
theorem secretRef_of_resolve {c : Config} {es : List Endpoint} (h : resolve c = .ok es)
    (hsections : ∀ tenant s, c.sections.find? tenant = some s → s.providesSecret = false)
    {e : Endpoint} (he : e ∈ es) : e.secretRef = globalSecretRef := by
  obtain ⟨s, hs, heq⟩ := ((serves_of_resolve h).mem_iff e).mp he
  rw [heq, Section.endpoint, Section.secretRef, hs.providesSecret_eq_false hsections]
  rfl

end Config

/-! ## Providers -/

namespace Provider

open Http

variable {σ : Type}

theorem readEntry_of_text {files : FileTree} {directory address suffix raw : String}
    (hraw : files.readText? (FileTree.joinPath directory (address ++ "." ++ suffix)) = some raw)
    (hsome : trim raw ≠ "") : Secret.readEntry files directory address suffix = .ok (trim raw) := by
  have hblank : isBlankText raw = false := by
    rw [← Bool.not_eq_true, ← trim_eq_empty_iff]
    exact hsome
  rw [Secret.readEntry, hraw]
  dsimp only
  rw [hblank]
  rfl

theorem directoryCredentials_of_holds {files : FileTree} {directory address : String}
    {k : Credentials} (h : Secret.Holds files directory address k)
    (huser : validateUsername k.username = .ok ()) (hpassword : validatePassword k.password = .ok ()) :
    Secret.directoryCredentials files directory address = .ok k := by
  obtain ⟨⟨raw, hraw, htrim⟩, raw', hraw', htrim'⟩ := h
  have hsome : trim raw ≠ "" := by
    rintro hempty
    rw [← htrim, hempty] at huser
    cases huser
  have hsome' : trim raw' ≠ "" := by
    rintro hempty
    rw [← htrim', hempty] at hpassword
    cases hpassword
  have hname : address ++ "." ++ "username" = address ++ ".username" := String.append_assoc ..
  have hname' : address ++ "." ++ "password" = address ++ ".password" := String.append_assoc ..
  rw [Secret.directoryCredentials, readEntry_of_text (hname ▸ hraw) hsome,
    readEntry_of_text (hname' ▸ hraw') hsome', htrim, htrim']
  rfl

theorem completeManagers_empty {c : Config} (h : isBlankText c.global.secretsDirectory = false) :
    completeManagers c ∅ =
      (∅ : Dict Secret.Manager).insert globalSecretRef
        (.directory (trim c.global.secretsDirectory)) := by
  have hsome : (trim c.global.secretsDirectory).isEmpty = false := by
    rw [← Bool.not_eq_true, String.isEmpty_iff, trim_eq_empty_iff, h]
    exact Bool.false_ne_true
  unfold completeManagers
  simp only [hsome]
  rfl

theorem build_eq_ok {c : Config} {managers : Dict Secret.Manager}
    {factory : Config → Endpoint → Result σ} {p : Provider} {sessions : Dict σ}
    (h : build (some c) managers factory = .ok (p, sessions)) :
    p.managers = completeManagers c managers ∧
      ∃ es, Config.resolve c = .ok es ∧
        Pool.create es (factory c) p.managers.keys c.discovery = .ok (p.atlas.pool, sessions) := by
  obtain ⟨es, hes, h₁⟩ := Result.bind_eq_ok_iff.mp h
  obtain ⟨⟨pool, opened⟩, hcreate, h₂⟩ := Result.bind_eq_ok_iff.mp h₁
  obtain ⟨policy, -, h₃⟩ := Result.bind_eq_ok_iff.mp h₂
  obtain ⟨rfl, rfl⟩ := Prod.mk.inj (Except.ok.inj h₃)
  dsimp only
  exact ⟨rfl, es, hes, hcreate⟩

section Directory

variable {c : Config} {es : List Endpoint} {e : Endpoint} {p : Provider} {first : String → σ}
  {sessions : Dict (Client × ClientState σ)} {files : FileTree} {k : Credentials}
  (server : String → Server σ)

/-- A session begins with the credentials of its endpoint. -/
theorem find?_of_build {managers : Dict Secret.Manager}
    (hbuild : build (some c) managers (Tenants.openSession first) = .ok (p, sessions))
    (he : e ∈ p.atlas.pool.list) :
    ∃ client, sessions.find? e.tenant =
      some (client, .start e.credentials c.global.sessionLifetime.toNat (first e.tenant)) := by
  obtain ⟨-, es, -, hcreate⟩ := build_eq_ok hbuild
  obtain ⟨x, hopen, hfind⟩ :=
    Pool.find?_of_create hcreate ((Pool.perm_list_of_create hcreate).1.mem_iff.mp he)
  unfold Tenants.openSession at hopen
  cases hclient : openHttp c e with
  | error err =>
    rw [hclient] at hopen
    cases hopen
  | ok client =>
    rw [hclient] at hopen
    obtain rfl := Except.ok.inj hopen
    exact ⟨client, hfind⟩

theorem run_connect_of_holds (hdirectory : isBlankText c.global.secretsDirectory = false)
    (hsections : ∀ tenant s, c.sections.find? tenant = some s → s.providesSecret = false)
    (hes : Config.resolve c = .ok es)
    (hbuild : build (some c) ∅ (Tenants.openSession first) = .ok (p, sessions)) (he : e ∈ es)
    (hfiles : Secret.Holds files (trim c.global.secretsDirectory) e.host k)
    (huser : validateUsername k.username = .ok ()) (hpassword : validatePassword k.password = .ok ())
    (hserver : Knows (server e.tenant) k) :
    ((p.atlas.pool.connect e.tenant).run (Tenants.handle server) ⟨sessions, p.managers, files⟩).1 =
      match checkCredentials e.credentials with
      | .error (.validation v) => .error (.validation v)
      | _ => .ok () := by
  obtain ⟨hmanagers, es', hes', hcreate⟩ := build_eq_ok hbuild
  obtain rfl : es' = es := Except.ok.inj (hes'.symm.trans hes)
  rw [completeManagers_empty hdirectory] at hmanagers
  have hsecret := Config.secretRef_of_resolve hes hsections he
  have hendpoint := (Pool.perm_list_of_create hcreate).2 e he
  obtain ⟨client, hfind⟩ := find?_of_build hbuild ((Pool.perm_list_of_create hcreate).1.mem_iff.mpr he)
  have hmanaged : p.atlas.pool.managers.contains e.secretRef = true := by
    rw [Pool.managers_of_create hcreate, hmanagers, hsecret]
    rfl
  have hk : Tenants.askManager ⟨sessions, p.managers, files⟩ e.secretRef e.host = .ok k := by
    rw [Tenants.askManager, hmanagers, hsecret, Dict.find?_insert_self]
    exact directoryCredentials_of_holds hfiles huser hpassword
  rw [Pool.connect, hendpoint]
  exact Tenants.connectEndpoint_of_knows (w := ⟨sessions, p.managers, files⟩) hfind rfl hmanaged hk
    (checkCredentials_eq_ok_iff.mpr ⟨huser, hpassword⟩) hserver

/-- With a directory that holds valid credentials for an endpoint, as its server knows them, the session
of the endpoint can be connected if it begins without credentials or with valid ones. If it begins with
others, then it cannot be connected, as the failure to send them is no reason to ask the directory. -/
theorem connect_ok_iff_of_holds (hdirectory : isBlankText c.global.secretsDirectory = false)
    (hsections : ∀ tenant s, c.sections.find? tenant = some s → s.providesSecret = false)
    (hes : Config.resolve c = .ok es)
    (hbuild : build (some c) ∅ (Tenants.openSession first) = .ok (p, sessions)) (he : e ∈ es)
    (hfiles : Secret.Holds files (trim c.global.secretsDirectory) e.host k)
    (huser : validateUsername k.username = .ok ()) (hpassword : validatePassword k.password = .ok ())
    (hserver : Knows (server e.tenant) k) :
    (((p.atlas.pool.connect e.tenant).run (Tenants.handle server) ⟨sessions, p.managers, files⟩).1 =
        .ok () ↔
      e.credentials.isEmpty = true ∨ validateUsername e.credentials.username = .ok () ∧
        validatePassword e.credentials.password = .ok ()) ∧
    ∀ v, checkCredentials e.credentials = .error (.validation v) →
      ((p.atlas.pool.connect e.tenant).run (Tenants.handle server)
        ⟨sessions, p.managers, files⟩).1 = .error (.validation v) := by
  rw [run_connect_of_holds server hdirectory hsections hes hbuild he hfiles huser hpassword hserver,
    ← checkCredentials_eq_ok_iff]
  refine ⟨?_, fun v hv => by rw [hv]⟩
  rcases checkCredentials_cases e.credentials with hc | hc | ⟨v, hc⟩
  · simp [hc]
  · simp [hc, isEmpty_of_checkCredentials hc]
  · rw [hc]
    refine ⟨nofun, ?_⟩
    rintro (hempty | hok)
    · rw [checkCredentials_of_isEmpty hempty] at hc
      cases hc
    · cases hok

end Directory

/-! ## A vault -/

/-- The username and the password that a request submits. -/
def submitted? (q : Request) : Option (String × String) :=
  match q.body with
  | some (.object [(some _, .text user), (some _, .text password)]) => some (user, password)
  | _ => none

/-- A server that knows one user. -/
def porter : Server Unit := fun q s =>
  if submitted? q = some ("admin", "s3cret") then
    (some ⟨200, "\x7b\"data\":\x7b\"token\":\"t-1\"\x7d\x7d"⟩, s)
  else (some ⟨401, ""⟩, s)

/-- A configuration with a directory of secrets and one endpoint, whose section may name a user. -/
def vault (user : String) : Config :=
  { global := { secretsDirectory := "/secrets" }
    sections := (∅ : Dict Config.Section).insert "10.0.0.1" { user := user } }

def vaultEndpoint (user : String) : Endpoint :=
  ⟨"10.0.0.1", "10.0.0.1", 443, ⟨user, ""⟩, globalSecretRef, false, [], [.ipv4]⟩

def vaultFiles : FileTree :=
  (FileTree.empty.add "/secrets/10.0.0.1.username" (.file "admin".toUTF8)).add
    "/secrets/10.0.0.1.password" (.file "s3cret".toUTF8)

theorem knows_porter : Knows porter ⟨"admin", "s3cret"⟩ where
  grants url s := by
    refine ⟨_, "t-1", rfl, rfl, ?_, ?_⟩
    · decide +kernel
    · decide +kernel
  rejects url s c hc := by
    have hother : submitted? (loginRequest url c) ≠ some ("admin", "s3cret") := by
      intro h
      obtain ⟨huser, hpassword⟩ := Prod.mk.inj (Option.some.inj h)
      obtain ⟨user, password⟩ := c
      subst huser hpassword
      exact hc rfl
    exact ⟨⟨401, ""⟩, by rw [porter, if_neg hother], rfl⟩

theorem holds_vaultFiles :
    Secret.Holds vaultFiles (trim (vault "").global.secretsDirectory) "10.0.0.1"
      ⟨"admin", "s3cret"⟩ :=
  ⟨⟨"admin", by decide +kernel, by decide +kernel⟩, "s3cret", by decide +kernel, by decide +kernel⟩

/-- The directory is configured, and the credentials in it can be sent. -/
theorem valid_vaultFiles :
    isBlankText "/secrets" = false ∧ validateUsername "admin" = .ok () ∧
      validatePassword "s3cret" = .ok () := by
  decide +kernel

theorem resolve_vault : ∀ user ∈ ["", "admin"],
    Config.resolve (vault user) = .ok [vaultEndpoint user] := by
  decide +kernel

theorem exists_build_vault : ∀ user ∈ ["", "admin"],
    ∃ p sessions, build (some (vault user)) ∅ (Tenants.openSession fun _ => ()) =
      .ok (p, sessions) := by
  have hbuilt : ∀ user ∈ ["", "admin"],
      (build (some (vault user)) ∅ (Tenants.openSession fun _ => ())).isOk = true := by
    decide +kernel
  intro user huser
  obtain ⟨⟨p, sessions⟩, hbuild⟩ := Result.exists_of_isOk (hbuilt user huser)
  exact ⟨p, sessions, hbuild⟩

theorem providesSecret_vault (user : String) : ∀ tenant s,
    (vault user).sections.find? tenant = some s → s.providesSecret = false := by
  intro tenant s h
  unfold vault at h
  rw [Dict.find?_insert] at h
  split at h
  · cases h
    rfl
  · cases h

/-- An endpoint whose section names neither user nor password is connected with the secrets. -/
theorem connect_ok_iff_of_holds_vault :
    ∃ p sessions, build (some (vault "")) ∅ (Tenants.openSession fun _ => ()) = .ok (p, sessions) ∧
      ((p.atlas.pool.connect "10.0.0.1").run (Tenants.handle fun _ => porter)
        ⟨sessions, p.managers, vaultFiles⟩).1 = .ok () := by
  obtain ⟨p, sessions, hbuild⟩ := exists_build_vault "" (by decide)
  obtain ⟨hdirectory, huser, hpassword⟩ := valid_vaultFiles
  obtain ⟨hiff, -⟩ := connect_ok_iff_of_holds (fun _ => porter) hdirectory
    (providesSecret_vault "") (resolve_vault "" (by decide)) hbuild List.mem_cons_self
    holds_vaultFiles huser hpassword knows_porter
  exact ⟨p, sessions, hbuild, hiff.mpr (.inl rfl)⟩

/-- An endpoint whose section names a user without a password cannot be connected, although its
directory holds valid credentials and its server knows them. -/
theorem exists_locked_out :
    isBlankText (vault "admin").global.secretsDirectory = false ∧
    (∀ tenant s, (vault "admin").sections.find? tenant = some s → s.providesSecret = false) ∧
    Config.resolve (vault "admin") = .ok [vaultEndpoint "admin"] ∧
    Secret.Holds vaultFiles (trim (vault "admin").global.secretsDirectory)
      (vaultEndpoint "admin").host ⟨"admin", "s3cret"⟩ ∧
    validateUsername "admin" = .ok () ∧ validatePassword "s3cret" = .ok () ∧
    Knows porter ⟨"admin", "s3cret"⟩ ∧
    ∃ p sessions, build (some (vault "admin")) ∅ (Tenants.openSession fun _ => ()) =
        .ok (p, sessions) ∧
      ((p.atlas.pool.connect "10.0.0.1").run (Tenants.handle fun _ => porter)
        ⟨sessions, p.managers, vaultFiles⟩).1 =
          .error (.validation (.field "password" "Password cannot be empty")) := by
  obtain ⟨p, sessions, hbuild⟩ := exists_build_vault "admin" (by decide)
  obtain ⟨hdirectory, huser, hpassword⟩ := valid_vaultFiles
  have hresolve := resolve_vault "admin" (by decide)
  refine ⟨hdirectory, providesSecret_vault "admin", hresolve, holds_vaultFiles, huser, hpassword,
    knows_porter, p, sessions, hbuild, ?_⟩
  have hrun := run_connect_of_holds (fun _ => porter) hdirectory
    (providesSecret_vault "admin") hresolve hbuild List.mem_cons_self holds_vaultFiles
    huser hpassword knows_porter
  have hcheck : checkCredentials (vaultEndpoint "admin").credentials =
      .error (.validation (.field "password" "Password cannot be empty")) := by
    decide +kernel
  rw [hcheck] at hrun
  exact hrun

end Provider

end NodeAtlas
