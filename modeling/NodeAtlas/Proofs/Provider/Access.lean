import NodeAtlas.Proofs.Provider.SecretLogin

/-!
# Access to credentials

The resolution lets an endpoint begin without credentials if a directory of secrets is set, and the
provider is completed by a manager for that directory. The former takes the text of the directory as it
stands and the latter trims it, so they disagree about a text of blank characters alone.
-/

namespace NodeAtlas

open NodeAtlas.Text

/-- An endpoint begins with a user and a password, or there is a manager to ask for them. -/
def Pool.CanObtain (p : Pool) (e : Endpoint) : Prop :=
  e.credentials.username ≠ "" ∧ e.credentials.password ≠ "" ∨ e.secretRef ∈ p.managers

/-! ## Configuration -/

namespace Config

/-- No cluster secret is configured, be it in the global settings or in a section. -/
structure NoClusterSecret (c : Config) : Prop where
  name : c.global.secretName = ""
  space : c.global.secretNamespace = ""
  sections : ∀ tenant s, c.sections.find? tenant = some s → s.providesSecret = false

/-- The directory of secrets is set, but to blank characters alone. -/
def Global.BlankDirectory (g : Global) : Prop :=
  g.secretsDirectory ≠ "" ∧ isBlankText g.secretsDirectory = true

variable {c : Config}

theorem NoClusterSecret.providesSecret_iff (h : c.NoClusterSecret) :
    c.global.providesSecret = true ↔ c.global.secretsDirectory ≠ "" := by
  unfold Global.providesSecret
  simp [h.name, h.space]

theorem Tenancy.unique {tenant : String} {s s' : Section} (h : Tenancy c tenant s)
    (h' : Tenancy c tenant s') : s = s' :=
  Dict.eq_of_mem_entries (mem_allSections_iff.mpr h) (mem_allSections_iff.mpr h')

/-- Without a cluster secret, it is the text of the directory as it stands that lets an endpoint begin
without credentials. -/
theorem NoClusterSecret.incomplete_iff (h : c.NoClusterSecret) {tenant : String} {s : Section}
    (hs : Tenancy c tenant s) (hvalid : s.Valid c.global tenant) :
    (s.credentials c.global).username = "" ∨ (s.credentials c.global).password = "" ↔
      c.global.secretsDirectory ≠ "" ∧ (s.user = "" ∨ s.password = "") := by
  have hown := hs.providesSecret_eq_false h.sections
  constructor
  · intro hnone
    rcases providesSecret_of_credentials hvalid hnone with hsecret | hsecret
    · rw [hown] at hsecret
      cases hsecret
    · rw [Section.credentials, hsecret, Bool.or_true, if_pos rfl] at hnone
      exact ⟨h.providesSecret_iff.mp hsecret, hnone⟩
  · rintro ⟨hdirectory, hnone⟩
    rw [Section.credentials, h.providesSecret_iff.mpr hdirectory, Bool.or_true, if_pos rfl]
    exact hnone

end Config

/-! ## Providers -/

namespace Provider

variable {σ : Type} {c : Config} {managers : Dict Secret.Manager}
  {factory : Config → Endpoint → Result σ} {p : Provider} {sessions : Dict σ}

/-- It is the trimmed text of the directory that decides about a manager. -/
theorem contains_completeManagers_iff :
    (completeManagers c managers).contains globalSecretRef = true ↔
      managers.contains globalSecretRef = true ∨ isBlankText c.global.secretsDirectory = false := by
  unfold completeManagers
  rw [← Bool.not_eq_true (isBlankText _), ← trim_eq_empty_iff, ← String.isEmpty_iff]
  cases hdirectory : (trim c.global.secretsDirectory).isEmpty with
  | true => simp [hdirectory]
  | false =>
    cases hmanager : managers.contains globalSecretRef with
    | true => simp [hdirectory, hmanager]
    | false =>
      simp only [hdirectory, Bool.or_self, Bool.false_eq_true, if_false]
      simp [Dict.contains_insert_iff]

theorem mem_managers_iff (h : build (some c) managers factory = .ok (p, sessions)) :
    globalSecretRef ∈ p.atlas.pool.managers ↔
      managers.contains globalSecretRef = true ∨ isBlankText c.global.secretsDirectory = false := by
  obtain ⟨hmanagers, es, -, hcreate⟩ := build_eq_ok h
  rw [Pool.managers_of_create hcreate, Dict.mem_keys_iff, hmanagers, contains_completeManagers_iff]

/-- An endpoint of a provider serves a tenant of the configuration, whose section has no fault. -/
theorem tenancy_of_mem (h : build (some c) managers factory = .ok (p, sessions)) {e : Endpoint}
    (he : e ∈ p.atlas.pool.list) :
    ∃ s, Config.Tenancy c e.tenant s ∧ s.Valid c.global e.tenant ∧
      e = s.endpoint c.global e.tenant := by
  obtain ⟨-, es, hes, hcreate⟩ := build_eq_ok h
  have hmem := (Pool.perm_list_of_create hcreate).1.mem_iff.mp he
  obtain ⟨s, hs, heq⟩ := ((Config.serves_of_resolve hes).mem_iff e).mp hmem
  obtain ⟨hresolvable, -⟩ := Config.resolve_eq_ok_iff.mp hes
  exact ⟨s, hs, hresolvable.valid _ _ hs, heq⟩

/-- Without a cluster secret, every endpoint can obtain credentials, with one exception: the directory of
secrets is set to blank characters alone, no manager was registered in its place, and the section of the
endpoint leaves out the user or the password. -/
theorem canObtain_iff (hcluster : c.NoClusterSecret)
    (h : build (some c) managers factory = .ok (p, sessions)) {e : Endpoint}
    (he : e ∈ p.atlas.pool.list) :
    p.atlas.pool.CanObtain e ↔
      ¬ (c.global.BlankDirectory ∧ managers.contains globalSecretRef = false ∧
        ∃ s, Config.Tenancy c e.tenant s ∧ (s.user = "" ∨ s.password = "")) := by
  obtain ⟨s, hs, hvalid, heq⟩ := tenancy_of_mem h he
  have hincomplete := hcluster.incomplete_iff hs hvalid
  have hcredentials : e.credentials = s.credentials c.global := by rw [heq]; rfl
  have hsecret : e.secretRef = globalSecretRef := by
    rw [heq, Config.Section.endpoint, Config.Section.secretRef,
      hs.providesSecret_eq_false hcluster.sections]
    rfl
  have hsection : (∃ s, Config.Tenancy c e.tenant s ∧ (s.user = "" ∨ s.password = "")) ↔
      s.user = "" ∨ s.password = "" := by
    constructor
    · rintro ⟨s', hs', hnone⟩
      rwa [hs.unique hs']
    · exact fun hnone => ⟨s, hs, hnone⟩
  have hcomplete : e.credentials.username ≠ "" ∧ e.credentials.password ≠ "" ↔
      ¬ (c.global.secretsDirectory ≠ "" ∧ (s.user = "" ∨ s.password = "")) := by
    rw [← hincomplete, hcredentials, not_or]
  rw [Pool.CanObtain, hcomplete, hsecret, mem_managers_iff h, hsection, Config.Global.BlankDirectory,
    ← Bool.not_eq_true (managers.contains _), ← Bool.not_eq_true (isBlankText _)]
  grind

/-- An endpoint that cannot obtain credentials is not connected, whatever its server would say and
whatever the files hold. -/
theorem connect_of_not_canObtain {first : String → σ}
    {opened : Dict (Http.Client × Http.ClientState σ)} (server : String → Http.Server σ)
    (files : FileTree)
    (h : build (some c) managers (Http.Tenants.openSession first) = .ok (p, opened)) {e : Endpoint}
    (he : e ∈ p.atlas.pool.list) (hnot : ¬ p.atlas.pool.CanObtain e) :
    ((p.atlas.pool.connect e.tenant).run (Http.Tenants.handle server) ⟨opened, p.managers, files⟩).1 =
      match Http.checkCredentials e.credentials with
      | .error (.validation v) => .error (.validation v)
      | _ => .error (.credentialManagerNotFound e.secretRef) := by
  obtain ⟨-, es, -, hcreate⟩ := build_eq_ok h
  obtain ⟨client, hfind⟩ := find?_of_build h he
  obtain ⟨hincomplete, hunmanaged⟩ := not_or.mp hnot
  have hendpoint := Pool.Keyed.endpoint_of_mem (Pool.keyed_of_create hcreate) he
  have hrefused {err : Error} (hc : Http.checkCredentials e.credentials = .error err) :=
    Http.connect_of_error (server e.tenant) client
      (s := .start e.credentials c.global.sessionLifetime.toNat (first e.tenant)) rfl hc
  rw [Pool.connect, hendpoint]
  dsimp only
  rw [Http.Tenants.run_connectEndpoint]
  rcases Http.checkCredentials_cases e.credentials with hc | hc | ⟨v, hc⟩
  · -- Credentials that can be sent are complete.
    obtain ⟨huser, hpassword⟩ := Http.checkCredentials_eq_ok_iff.mp hc
    refine absurd ⟨?_, ?_⟩ hincomplete
    · rintro hempty
      rw [hempty] at huser
      cases huser
    · rintro hempty
      rw [hempty] at hpassword
      cases hpassword
  · obtain ⟨t, hrun, -⟩ := hrefused hc
    have hunknown : (!p.atlas.pool.managers.contains e.secretRef) = true := by
      simpa using hunmanaged
    rw [Http.Tenants.onSession_eq server hfind hrun, hc]
    dsimp only
    rw [Pool.refresh, if_pos hunknown]
    rfl
  · obtain ⟨t, hrun, -⟩ := hrefused hc
    rw [Http.Tenants.onSession_eq server hfind hrun, hc]

/-! ## A directory without a name -/

theorem noClusterSecret_vault : (vault "").NoClusterSecret :=
  ⟨rfl, rfl, providesSecret_vault ""⟩

theorem canObtain_iff_vault :
    ∃ p sessions, build (some (vault "")) ∅ (Http.Tenants.openSession fun _ => ()) =
        .ok (p, sessions) ∧
      vaultEndpoint "" ∈ p.atlas.pool.list ∧ p.atlas.pool.CanObtain (vaultEndpoint "") := by
  obtain ⟨p, sessions, hbuild⟩ := exists_build_vault "" (by decide)
  have hmem : vaultEndpoint "" ∈ p.atlas.pool.list := by
    obtain ⟨-, es, hes, hcreate⟩ := build_eq_ok hbuild
    obtain rfl := Except.ok.inj (hes.symm.trans (resolve_vault "" (by decide)))
    exact (Pool.perm_list_of_create hcreate).1.mem_iff.mpr List.mem_cons_self
  have hnamed : ¬ (vault "").global.BlankDirectory := by
    rintro ⟨-, hblank⟩
    revert hblank
    decide +kernel
  refine ⟨p, sessions, hbuild, hmem, ?_⟩
  exact (canObtain_iff noClusterSecret_vault hbuild hmem).mpr fun hexcept => hnamed hexcept.1

/-- The directory is a blank, and the section of the endpoint says nothing. -/
def shed : Config := { vault "" with global := { secretsDirectory := " " } }

/-- A provider with an endpoint that cannot obtain credentials, although no cluster secret is configured,
and its failure to connect. -/
theorem exists_destitute :
    shed.NoClusterSecret ∧
    ∃ p sessions, build (some shed) ∅ (Http.Tenants.openSession fun _ => ()) = .ok (p, sessions) ∧
      ∃ e ∈ p.atlas.pool.list, ¬ p.atlas.pool.CanObtain e ∧
        ((p.atlas.pool.connect e.tenant).run (Http.Tenants.handle fun _ => porter)
          ⟨sessions, p.managers, vaultFiles⟩).1 = .error (.credentialManagerNotFound "Global") := by
  have hresolve : Config.resolve shed = .ok [vaultEndpoint ""] := by decide +kernel
  have hbuilt : (build (some shed) ∅ (Http.Tenants.openSession fun _ => ())).isOk = true := by
    decide +kernel
  obtain ⟨⟨p, sessions⟩, hbuild⟩ := Result.exists_of_isOk hbuilt
  obtain ⟨hmanagers, es, hes, hcreate⟩ := build_eq_ok hbuild
  obtain rfl := Except.ok.inj (hes.symm.trans hresolve)
  have hmem := (Pool.perm_list_of_create hcreate).1.mem_iff.mpr List.mem_cons_self
  have hunmanaged : p.atlas.pool.managers = [] := by
    rw [Pool.managers_of_create hcreate, hmanagers]
    decide +kernel
  have hnot : ¬ p.atlas.pool.CanObtain (vaultEndpoint "") := by
    rw [Pool.CanObtain, hunmanaged]
    decide
  refine ⟨⟨rfl, rfl, providesSecret_vault ""⟩, p, sessions, hbuild, _, hmem, hnot, ?_⟩
  rw [connect_of_not_canObtain (fun _ => porter) vaultFiles hbuild hmem hnot]
  decide +kernel

end Provider

end NodeAtlas
