import NodeAtlas.Http.Tenants
import NodeAtlas.Proofs.Config.Concealment
import NodeAtlas.Proofs.Config.Shown
import NodeAtlas.Proofs.Pool.Create

/-!
# Passwords in the texts of a provider

Two providers are built from configurations that differ in passwords alone. The texts that stand for
their endpoints, connections, pools and clients in logs are the same, but their own texts hold those of
the configurations and give every password away.
-/

namespace NodeAtlas.Provider

open Http NodeAtlas.Text

variable {σ : Type}

/-- What logs show of the parts of two providers is the same: of every endpoint, of its credentials and
its connection, of the pool, and of the clients. -/
structure SameTexts (p p' : Provider) (sessions sessions' : Dict (Client × ClientState σ)) : Prop where
  endpoints : p.atlas.pool.list.map Endpoint.describe = p'.atlas.pool.list.map Endpoint.describe
  credentials : p.atlas.pool.list.map (fun e => e.credentials.describe) =
    p'.atlas.pool.list.map fun e => e.credentials.describe
  connections : p.atlas.pool.list.map Pool.describeConnection =
    p'.atlas.pool.list.map Pool.describeConnection
  pool : p.atlas.pool.describe = p'.atlas.pool.describe
  clients : sessions.map (fun x => x.1.describe) = sessions'.map fun x => x.1.describe

variable {c c' : Config} {managers managers' : Dict Secret.Manager}

theorem keys_completeManagers (h : c.concealed = c'.concealed) (hkeys : managers.keys = managers'.keys) :
    (completeManagers c managers).keys = (completeManagers c' managers').keys := by
  have hdirectory : c.concealed.global.secretsDirectory = c'.concealed.global.secretsDirectory := by
    rw [h]
  change c.global.secretsDirectory = c'.global.secretsDirectory at hdirectory
  have hcontains : managers.contains globalSecretRef = managers'.contains globalSecretRef := by
    rw [Bool.eq_iff_iff, ← Dict.mem_keys_iff, ← Dict.mem_keys_iff, hkeys]
  unfold completeManagers
  rw [hdirectory, hcontains]
  dsimp only
  split
  · exact hkeys
  · exact Dict.keys_insert_congr hkeys ..

theorem baseUrl_concealed (e : Endpoint) : e.concealed.baseUrl = e.baseUrl := by
  have hhost : e.concealed.host = e.host := rfl
  have hport : e.concealed.port = e.port := rfl
  unfold Endpoint.baseUrl Endpoint.authority
  rw [hhost, hport]

/-- A client does not depend on passwords. -/
theorem openHttp_concealed (first : String → σ) (c : Config) (e : Endpoint) :
    openHttp c.concealed e.concealed = (Tenants.openSession first c e).map Prod.fst := by
  have hlimit : c.concealed.global.rateLimit = c.global.rateLimit := rfl
  have hhost : e.concealed.host = e.host := rfl
  have hopen : openHttp c.concealed e.concealed = openHttp c e := by
    unfold openHttp Client.ofEndpoint
    rw [hlimit, baseUrl_concealed, hhost]
  rw [hopen, Tenants.openSession]
  cases openHttp c e with
  | error err => rfl
  | ok x => rfl

theorem create_concealed (first : String → σ) (c : Config) (es : List Endpoint)
    (managers : List String) (d : Config.Discovery) :
    Pool.create (es.map Endpoint.concealed) (openHttp c.concealed) managers d =
      (Pool.create es (Tenants.openSession first c) managers d).map fun x =>
        ({ x.1 with endpoints := x.1.endpoints.map Endpoint.concealed }, x.2.map Prod.fst) := by
  have htenant (e : Endpoint) : e.concealed.tenant = e.tenant := rfl
  exact Pool.create_map htenant (openHttp_concealed first c) es managers d

/-- The parts of two providers whose pools are the same but for passwords have the same texts. -/
theorem sameTexts_of_concealed (p p' : Provider) {sessions sessions' : Dict (Client × ClientState σ)}
    (h : p.atlas.pool.endpoints.map Endpoint.concealed = p'.atlas.pool.endpoints.map Endpoint.concealed)
    (hmanagers : p.atlas.pool.managers = p'.atlas.pool.managers)
    (hdiscovery : p.atlas.pool.discovery = p'.atlas.pool.discovery)
    (hclients : sessions.map Prod.fst = sessions'.map Prod.fst) :
    SameTexts p p' sessions sessions' := by
  have hlist : p.atlas.pool.list.map Endpoint.concealed = p'.atlas.pool.list.map Endpoint.concealed := by
    rw [Pool.list, Pool.list, ← Dict.values_map, h, Dict.values_map]
  have htext (text : Endpoint → String) (ht : ∀ e, text e.concealed = text e) :
      p.atlas.pool.list.map text = p'.atlas.pool.list.map text := by
    have hmap := congrArg (List.map text) hlist
    rw [List.map_map, List.map_map] at hmap
    have hsame : text ∘ Endpoint.concealed = text := funext ht
    rwa [hsame] at hmap
  have hkeys : p.atlas.pool.endpoints.keys = p'.atlas.pool.endpoints.keys := by
    rw [← Dict.keys_map Endpoint.concealed, h, Dict.keys_map]
  have hshown := congrArg (Dict.map Client.describe) hclients
  rw [Dict.map_map, Dict.map_map] at hshown
  refine ⟨htext _ fun _ => rfl, htext _ fun _ => rfl, htext _ fun _ => rfl, ?_, hshown⟩
  rw [Pool.describe, Pool.describe, hkeys, hmanagers, hdiscovery]

/-- The text of a provider shows whatever the text of its configuration shows. -/
theorem describe_eq_iff_of_parts {p p' : Provider}
    (hpool : p.atlas.pool.describe = p'.atlas.pool.describe) (hpolicy : p.atlas.policy = p'.atlas.policy)
    (hlabels : p.atlas.labels = p'.atlas.labels) :
    p.describe = p'.describe ↔ p.config.describe = p'.config.describe := by
  have hnodes (config nodes : String) :
      shownRecord "IcsCloudProvider" [("config", config), ("nodes", nodes)] =
        "IcsCloudProvider" ++ " \x7b " ++ "config: " ++
          (config ++ (", " ++ "nodes: " ++ nodes ++ " \x7d")) := by
    have hconfig : shownField ("config", config) = "config: " ++ config := rfl
    have hrest : shownField ("nodes", nodes) = "nodes: " ++ nodes := rfl
    simp only [shownRecord, List.map_cons, List.map_nil, String.intercalate_cons_cons,
      String.intercalate_singleton, hconfig, hrest, String.append_assoc]
  rw [describe, describe, hpool, hpolicy, hlabels, hnodes, hnodes, String.append_right_inj,
    String.append_left_inj]

/-- Two providers whose configurations differ in passwords alone are built, or fail to be, alike. -/
theorem alike_build_of_concealed (first : String → σ) (h : c.concealed = c'.concealed)
    (hkeys : managers.keys = managers'.keys) :
    Result.Alike
      (fun x x' => SameTexts x.1 x'.1 x.2 x'.2 ∧ (x.1.describe = x'.1.describe ↔ c = c'))
      (build (some c) managers (Tenants.openSession first))
      (build (some c') managers' (Tenants.openSession first)) := by
  have hmanagers := keys_completeManagers h hkeys
  have hsame := Config.eq_of_concealed h
  have hdiscovery : c.discovery = c'.discovery := by rw [hsame]
  have hnodes : c.nodes = c'.nodes := by rw [hsame]
  have hlabels : c.labels = c'.labels := by rw [hsame]
  have hresolve : (Config.resolve c).map (fun es => es.map Endpoint.concealed) =
      (Config.resolve c').map fun es => es.map Endpoint.concealed := by
    rw [← Config.resolve_concealed, h, Config.resolve_concealed]
  unfold build
  dsimp only
  refine (Result.alike_of_map_eq hresolve).bind fun es es' hes => ?_
  -- Both pools look like the one that is created from the concealed endpoints.
  have hcreate :=
    create_concealed first c es (completeManagers c' managers').keys c'.discovery
  rw [hes, h, create_concealed] at hcreate
  rw [hmanagers, hdiscovery]
  refine (Result.alike_of_map_eq hcreate.symm).bind fun x x' hx => ?_
  rw [hnodes]
  refine (Result.Alike.refl _).bind fun policy policy' hpolicy => ?_
  obtain ⟨hpool, hclients⟩ := Prod.mk.inj hx
  obtain ⟨hendpoints, hreferences, hlimits⟩ := Pool.mk.inj hpool
  have hparts := sameTexts_of_concealed ⟨c, completeManagers c managers, x.1, policy, c.labels⟩
    ⟨c', completeManagers c' managers', x'.1, policy', c'.labels⟩ hendpoints hreferences hlimits
    hclients
  refine .ok ⟨hparts, ?_⟩
  rw [describe_eq_iff_of_parts hparts.pool hpolicy hlabels]
  exact Config.describe_eq_iff h

/-- Where passwords alone differ, the texts of credentials, endpoints and connections are the same. So are
those of all parts of the providers that are built, which fail to be so alike; but the texts of the
providers themselves are the same only if all passwords are. Logs may show the managers in any order, which
says nothing about passwords: `hkeys` means the same references in the same order in both texts. -/
theorem texts_of_concealed (first : String → σ) (h : c.concealed = c'.concealed)
    (hkeys : managers.keys = managers'.keys) :
    (∀ k k' : Credentials, k.concealed = k'.concealed → k.describe = k'.describe) ∧
    (∀ e e' : Endpoint, e.concealed = e'.concealed →
      e.describe = e'.describe ∧ Pool.describeConnection e = Pool.describeConnection e') ∧
    Result.Alike
      (fun x x' => SameTexts x.1 x'.1 x.2 x'.2 ∧ (x.1.describe = x'.1.describe ↔ c = c'))
      (build (some c) managers (Tenants.openSession first))
      (build (some c') managers' (Tenants.openSession first)) := by
  have hcredentials (k : Credentials) : k.concealed.describe = k.describe := rfl
  have hendpoint (e : Endpoint) : e.concealed.describe = e.describe := rfl
  have hconnection (e : Endpoint) : Pool.describeConnection e.concealed = Pool.describeConnection e :=
    rfl
  refine ⟨fun k k' hk => ?_, fun e e' he => ⟨?_, ?_⟩, alike_build_of_concealed first h hkeys⟩
  · rw [← hcredentials, hk, hcredentials]
  · rw [← hendpoint, he, hendpoint]
  · rw [← hconnection, he, hconnection]

/-! ## A password in a text -/

/-- A configuration with one endpoint and a password in the global settings. -/
def ward (password : String) : Config :=
  { global := { user := "admin", password := password }
    sections := (∅ : Dict Config.Section).insert "10.0.0.1" {} }

theorem exists_build_ward : ∀ password ∈ ["s3cret", "hunter2"], ∃ p sessions,
    build (some (ward password)) ∅ (Tenants.openSession fun _ => ()) = .ok (p, sessions) := by
  have hbuilt : ∀ password ∈ ["s3cret", "hunter2"],
      (build (some (ward password)) ∅ (Tenants.openSession fun _ => ())).isOk = true := by
    decide +kernel
  intro password hpassword
  obtain ⟨⟨p, sessions⟩, hbuild⟩ := Result.exists_of_isOk (hbuilt password hpassword)
  exact ⟨p, sessions, hbuild⟩

theorem texts_of_concealed_ward :
    ∃ p sessions p' sessions',
      build (some (ward "s3cret")) ∅ (Tenants.openSession fun _ => ()) = .ok (p, sessions) ∧
      build (some (ward "hunter2")) ∅ (Tenants.openSession fun _ => ()) = .ok (p', sessions') ∧
      SameTexts p p' sessions sessions' := by
  obtain ⟨p, sessions, hbuild⟩ := exists_build_ward "s3cret" (by decide)
  obtain ⟨p', sessions', hbuild'⟩ := exists_build_ward "hunter2" (by decide)
  have h : (ward "s3cret").concealed = (ward "hunter2").concealed := rfl
  have hkeys : (∅ : Dict Secret.Manager).keys = (∅ : Dict Secret.Manager).keys := rfl
  obtain ⟨-, -, halike⟩ := texts_of_concealed (fun _ => ()) h hkeys
  rw [hbuild, hbuild'] at halike
  cases halike with
  | ok hx => exact ⟨p, sessions, p', sessions', hbuild, hbuild', hx.1⟩

/-- The texts of two providers that differ although their configurations differ in a password alone. -/
theorem exists_revealed :
    (ward "s3cret").concealed = (ward "hunter2").concealed ∧
    ∃ p sessions p' sessions',
      build (some (ward "s3cret")) ∅ (Tenants.openSession fun _ => ()) = .ok (p, sessions) ∧
      build (some (ward "hunter2")) ∅ (Tenants.openSession fun _ => ()) = .ok (p', sessions') ∧
      p.describe ≠ p'.describe := by
  obtain ⟨p, sessions, hbuild⟩ := exists_build_ward "s3cret" (by decide)
  obtain ⟨p', sessions', hbuild'⟩ := exists_build_ward "hunter2" (by decide)
  have h : (ward "s3cret").concealed = (ward "hunter2").concealed := rfl
  have hkeys : (∅ : Dict Secret.Manager).keys = (∅ : Dict Secret.Manager).keys := rfl
  have halike := alike_build_of_concealed (fun _ => ()) h hkeys
  rw [hbuild, hbuild'] at halike
  cases halike with
  | ok hx =>
    refine ⟨h, p, sessions, p', sessions', hbuild, hbuild', fun htext => ?_⟩
    have hpassword := congrArg (fun c : Config => c.global.password) (hx.2.mp htext)
    revert hpassword
    decide

end NodeAtlas.Provider
