import NodeAtlas.Dict.Lemmas
import NodeAtlas.Proofs.Config.Families
import NodeAtlas.Proofs.Text.Bytes

/-!
# Resolution of a configuration

A configuration is resolved exactly if nothing is wrong with its limits, its global family list and each
of its tenants, and there is a tenant. The endpoints are then those of the tenants in the order of their
names, and each follows from the global settings and the section of its tenant alone.
-/

namespace NodeAtlas.Config

open NodeAtlas.Net NodeAtlas.Text

/-! ## Single tenants -/

theorem orElse_eq_empty_iff {value fallback : String} :
    orElse value fallback = "" ↔ value = "" ∧ fallback = "" := by
  unfold orElse
  by_cases hvalue : value = ""
  · simp [hvalue]
  · simp [hvalue]

theorem plainCredentials_eq_ok_iff {g : Global} {tenant : String} {s : Section} {k : Credentials} :
    plainCredentials g tenant s = .ok k ↔
      (s.user ≠ "" ∨ g.user ≠ "") ∧ (s.password ≠ "" ∨ g.password ≠ "") ∧
        ⟨orElse s.user g.user, orElse s.password g.password⟩ = k := by
  have huser : (orElse s.user g.user).isEmpty = true ↔ ¬ (s.user ≠ "" ∨ g.user ≠ "") := by
    rw [String.isEmpty_iff, orElse_eq_empty_iff]
    tauto
  have hpassword :
      (orElse s.password g.password).isEmpty = true ↔ ¬ (s.password ≠ "" ∨ g.password ≠ "") := by
    rw [String.isEmpty_iff, orElse_eq_empty_iff]
    tauto
  unfold plainCredentials
  dsimp only
  split
  · rename_i hnone
    simp [huser.mp hnone]
  · rename_i hsome
    rw [huser, not_not] at hsome
    split
    · rename_i hnone
      simp [hpassword.mp hnone]
    · rename_i hsome'
      rw [hpassword, not_not] at hsome'
      simp [hsome, hsome']

theorem access_eq_ok_iff {g : Global} {tenant : String} {s : Section} {a : Credentials × String} :
    access g tenant s = .ok a ↔
      (s.providesSecret = true ∨ g.providesSecret = true ∨ s.user ≠ "" ∨ g.user ≠ "") ∧
        (s.providesSecret = true ∨ g.providesSecret = true ∨ s.password ≠ "" ∨ g.password ≠ "") ∧
          (s.credentials g, s.secretRef) = a := by
  unfold access Section.credentials Section.secretRef
  cases s.providesSecret with
  | true => simp
  | false =>
    cases g.providesSecret with
    | true => simp
    | false =>
      simp only [Bool.false_eq_true, if_false, false_or, Bool.or_self]
      cases hplain : plainCredentials g tenant s with
      | error err =>
        have hnot (k : Credentials) : ¬ plainCredentials g tenant s = .ok k := by simp [hplain]
        simp only [plainCredentials_eq_ok_iff] at hnot
        constructor
        · exact nofun
        · rintro ⟨huser, hpassword, -⟩
          exact absurd ⟨huser, hpassword, rfl⟩ (hnot _)
      | ok k =>
        obtain ⟨huser, hpassword, rfl⟩ := plainCredentials_eq_ok_iff.mp hplain
        simp [huser, hpassword]

theorem create_eq_ok_iff {tenant host : String} {port : UInt16} {e : Endpoint} :
    Endpoint.create tenant host port = .ok e ↔
      isBlankText tenant = false ∧ validateHost host = .ok () ∧ port ≠ 0 ∧
        ⟨tenant, host, port, .none, globalSecretRef, false, [], [.ipv4]⟩ = e := by
  unfold Endpoint.create validatePort
  cases isBlankText tenant with
  | true => simp [bind, Except.bind, throw, throwThe, MonadExceptOf.throw]
  | false =>
    cases validateHost host with
    | error v => simp [bind, Except.bind, Endpoint.checked]
    | ok u =>
      by_cases hport : port = 0
      · simp [bind, Except.bind, Endpoint.checked, hport]
      · simp [bind, Except.bind, Endpoint.checked, hport, pure, Except.pure]

theorem readable_empty : Family.Readable "" := by
  unfold Family.Readable
  decide

/-- A list that is left empty counts like one of IPv4 alone. -/
theorem readable_familyList_iff {g : Global} :
    Family.Readable g.familyList ↔ Family.Readable g.ipFamily := by
  unfold Global.familyList orElse
  by_cases hempty : g.ipFamily = ""
  · have hread : Family.Readable "ipv4" := by
      unfold Family.Readable
      decide
    simp [hempty, hread, readable_empty]
  · simp [hempty]

theorem priority_familyList (g : Global) : Family.priority g.familyList = Family.priority g.ipFamily := by
  unfold Global.familyList orElse
  by_cases hempty : g.ipFamily = ""
  · rw [hempty]
    decide
  · simp [hempty]

/-- A section without families takes the global ones. -/
theorem parseList_orElse_eq_ok_iff {g : Global} (hg : Family.Readable g.ipFamily) {s : Section}
    {fs : List Family} :
    Family.parseList (orElse s.ipFamily g.familyList) = .ok fs ↔
      Family.Readable s.ipFamily ∧ fs = Family.priority (orElse s.ipFamily g.ipFamily) := by
  rw [Family.parseList_eq_ok_iff]
  unfold orElse
  by_cases hempty : s.ipFamily = ""
  · simp [hempty, readable_familyList_iff, hg, readable_empty, priority_familyList]
  · simp [hempty]

theorem withFamilies_priority (e : Endpoint) (list : String) :
    e.withFamilies (Family.priority list) = { e with families := Family.priority list } := by
  have hsome : (Family.priority list).isEmpty = false := by
    simpa using Family.priority_ne_nil list
  rw [Endpoint.withFamilies, hsome]
  rfl

theorem getD_ne_zero_iff {port : Option UInt16} : port.getD defaultPort ≠ 0 ↔ port ≠ some 0 := by
  cases port with
  | none => simp [defaultPort]
  | some n => simp

/-- A tenant has an endpoint if it is valid, and then this one. -/
theorem resolveSection_eq_ok_iff {g : Global} (hg : Family.Readable g.ipFamily) {tenant : String}
    {s : Section} {e : Endpoint} :
    resolveSection g tenant s = .ok e ↔ s.Valid g tenant ∧ s.endpoint g tenant = e := by
  unfold resolveSection
  constructor
  · intro h
    split at h
    · obtain ⟨_, hthrow, -⟩ := Result.bind_eq_ok_iff.mp h
      cases hthrow
    · obtain ⟨⟨credentials, secretRef⟩, haccess, h₁⟩ := Result.bind_eq_ok_iff.mp h
      obtain ⟨families, hfamilies, h₂⟩ := Result.bind_eq_ok_iff.mp h₁
      obtain ⟨e', hcreate, h₃⟩ := Result.bind_eq_ok_iff.mp h₂
      obtain ⟨huser, hpassword, haccess⟩ := access_eq_ok_iff.mp haccess
      obtain ⟨rfl, rfl⟩ := Prod.mk.inj haccess
      obtain ⟨hread, rfl⟩ := (parseList_orElse_eq_ok_iff hg).mp hfamilies
      obtain ⟨hname, hhost, hport, rfl⟩ := create_eq_ok_iff.mp hcreate
      dsimp only at h₃
      rw [withFamilies_priority] at h₃
      exact ⟨⟨hname, hhost, getD_ne_zero_iff.mp hport, hread, huser, hpassword⟩, Except.ok.inj h₃⟩
  · rintro ⟨hvalid, rfl⟩
    have haccess : access g tenant s = .ok (s.credentials g, s.secretRef) :=
      access_eq_ok_iff.mpr ⟨hvalid.user, hvalid.password, rfl⟩
    have hfamilies := (parseList_orElse_eq_ok_iff hg).mpr ⟨hvalid.families, rfl⟩
    have hcreate := create_eq_ok_iff.mpr
      ⟨hvalid.name, hvalid.host, getD_ne_zero_iff.mpr hvalid.port, rfl⟩
    rw [hvalid.name, haccess, hfamilies, hcreate]
    simp only [Bool.false_eq_true, if_false, bind, Except.bind, withFamilies_priority]
    rfl

/-! ## All tenants -/

theorem mem_allSections_iff {c : Config} {tenant : String} {s : Section} :
    (tenant, s) ∈ (allSections c).entries ↔ Tenancy c tenant s := by
  rw [← Dict.find?_eq_some_iff]
  unfold allSections
  rw [Dict.contains_eq]
  -- The global settings add a tenant only if their server is set and no section has its name.
  by_cases hserver : c.global.server = ""
  · have hskip : (c.global.server.isEmpty || (c.sections.find? c.global.server).isSome) = true := by
      simp [hserver]
    rw [if_pos hskip]
    constructor
    · exact .configured
    · rintro (h | ⟨hsome, -⟩)
      · exact h
      · exact absurd hserver hsome
  · cases hfind : c.sections.find? c.global.server with
    | some s' =>
      rw [if_pos (by simp)]
      constructor
      · exact .configured
      · rintro (h | ⟨-, hfree⟩)
        · exact h
        · rw [hfind] at hfree
          cases hfree
    | none =>
      rw [if_neg (by simpa using hserver), Dict.find?_insert]
      constructor
      · intro h
        split at h
        · rename_i htenant
          obtain rfl := Option.some.inj h
          rw [htenant]
          exact .global hserver hfind
        · exact .configured h
      · rintro (h | ⟨-, -⟩)
        · have hne : tenant ≠ c.global.server := by
            rintro rfl
            rw [hfind] at h
            cases h
          rw [if_neg hne, h]
        · rw [if_pos rfl]

theorem Tenancy.providesSecret_eq_false {c : Config} {tenant : String} {s : Section}
    (h : Tenancy c tenant s)
    (hsections : ∀ tenant s, c.sections.find? tenant = some s → s.providesSecret = false) :
    s.providesSecret = false := by
  cases h with
  | configured hfind => exact hsections tenant s hfind
  | global => rfl

/-- The endpoints of several tenants, none of which has a fault. -/
theorem resolveAll_eq_ok_iff {g : Global} (hg : Family.Readable g.ipFamily)
    {sections : List (String × Section)} {es : List Endpoint} :
    resolveAll g sections = .ok es ↔
      (∀ x ∈ sections, x.2.Valid g x.1) ∧ sections.map (fun x => x.2.endpoint g x.1) = es := by
  induction sections generalizing es with
  | nil => simp [resolveAll]
  | cons x sections ih =>
    obtain ⟨tenant, s⟩ := x
    rw [resolveAll, List.forall_mem_cons, List.map_cons]
    cases hsection : resolveSection g tenant s with
    | error err =>
      have hnot : ¬ s.Valid g tenant := fun hvalid => by
        rw [(resolveSection_eq_ok_iff hg).mpr ⟨hvalid, rfl⟩] at hsection
        cases hsection
      simp [hnot]
    | ok e =>
      obtain ⟨hvalid, rfl⟩ := (resolveSection_eq_ok_iff hg).mp hsection
      cases hrest : resolveAll g sections with
      | error err =>
        have hnot : ¬ ∀ x ∈ sections, x.2.Valid g x.1 := fun hall => by
          rw [ih.mpr ⟨hall, rfl⟩] at hrest
          cases hrest
        simp only [hvalid, hnot]
        simp
      | ok rest =>
        obtain ⟨hall, rfl⟩ := ih.mp hrest
        constructor
        · intro h
          exact ⟨⟨hvalid, hall⟩, Except.ok.inj h⟩
        · rintro ⟨-, rfl⟩
          rfl

theorem checkDiscovery_eq_ok_iff {d : Discovery} :
    checkDiscovery d = .ok () ↔ 0 < d.poolSize ∧ 0 < d.queueSize ∧ 0 < d.connectionAttempts := by
  have hsize (n : UInt64) : 0 < n ↔ ¬ n = 0 := UInt64.pos_iff_ne_zero
  have hcount (n : UInt32) : 0 < n ↔ ¬ n = 0 := UInt32.pos_iff_ne_zero
  unfold checkDiscovery
  rw [hsize, hsize, hcount]
  by_cases hpool : d.poolSize = 0
  · simp [hpool]
  · by_cases hqueue : d.queueSize = 0
    · simp [hqueue]
    · by_cases hattempts : d.connectionAttempts = 0
      · simp [hpool, hqueue, hattempts]
      · simp [hpool, hqueue, hattempts]

theorem resolve_eq_ok_iff {c : Config} {es : List Endpoint} :
    resolve c = .ok es ↔
      c.Resolvable ∧ (allSections c).entries.map (fun x => x.2.endpoint c.global x.1) = es := by
  unfold resolve
  constructor
  · intro h
    obtain ⟨_, hdiscovery, h₁⟩ := Result.bind_eq_ok_iff.mp h
    obtain ⟨_, hfamilies, h₂⟩ := Result.bind_eq_ok_iff.mp h₁
    dsimp only at h₂
    split at h₂
    · obtain ⟨_, hthrow, -⟩ := Result.bind_eq_ok_iff.mp h₂
      cases hthrow
    · rename_i hsome
      obtain ⟨hpool, hqueue, hattempts⟩ := checkDiscovery_eq_ok_iff.mp hdiscovery
      have hread := readable_familyList_iff.mp (Family.parseList_eq_ok_iff.mp hfamilies).1
      obtain ⟨hvalid, hes⟩ := (resolveAll_eq_ok_iff hread).mp h₂
      have htenant : ∃ tenant s, Tenancy c tenant s := by
        rw [Bool.not_eq_true, Dict.isEmpty, List.isEmpty_eq_false_iff_exists_mem] at hsome
        obtain ⟨⟨tenant, s⟩, hmem⟩ := hsome
        exact ⟨tenant, s, mem_allSections_iff.mp hmem⟩
      refine ⟨⟨hpool, hqueue, hattempts, hread, htenant, fun tenant s hs => ?_⟩, hes⟩
      exact hvalid _ (mem_allSections_iff.mpr hs)
  · rintro ⟨⟨hpool, hqueue, hattempts, hread, ⟨tenant, s, hs⟩, hvalid⟩, rfl⟩
    have hdiscovery := checkDiscovery_eq_ok_iff.mpr ⟨hpool, hqueue, hattempts⟩
    have hfamilies := Family.parseList_eq_ok_iff.mpr ⟨readable_familyList_iff.mpr hread, rfl⟩
    have hsome : (allSections c).isEmpty = false := by
      rw [Dict.isEmpty, List.isEmpty_eq_false_iff_exists_mem]
      exact ⟨_, mem_allSections_iff.mpr hs⟩
    have hall := (resolveAll_eq_ok_iff hread).mpr
      ⟨fun x hx => hvalid x.1 x.2 (mem_allSections_iff.mp hx), rfl⟩
    rw [hdiscovery, hfamilies]
    simp only [bind, Except.bind, hsome, Bool.false_eq_true, if_false]
    exact hall

/-- The endpoints are those of the tenants, in ascending order of the bytes of their names. -/
structure Serves (c : Config) (es : List Endpoint) : Prop where
  ascending : es.Pairwise fun a b => bytes a.tenant < bytes b.tenant
  mem_iff : ∀ e, e ∈ es ↔ ∃ s, Tenancy c e.tenant s ∧ e = s.endpoint c.global e.tenant

theorem serves_of_resolve {c : Config} {es : List Endpoint} (h : resolve c = .ok es) :
    Serves c es := by
  obtain ⟨-, rfl⟩ := resolve_eq_ok_iff.mp h
  refine ⟨?_, fun e => ?_⟩
  · rw [List.pairwise_map]
    refine (allSections c).ordered.imp fun hlt => ?_
    exact bytes_lt_iff.mpr hlt
  · rw [List.mem_map]
    constructor
    · rintro ⟨⟨tenant, s⟩, hmem, rfl⟩
      exact ⟨s, mem_allSections_iff.mp hmem, rfl⟩
    · rintro ⟨s, hs, he⟩
      exact ⟨(e.tenant, s), mem_allSections_iff.mpr hs, he.symm⟩

/-- Only where a secret is to be had may an endpoint begin without a user or a password. -/
theorem providesSecret_of_credentials {g : Global} {tenant : String} {s : Section}
    (hvalid : s.Valid g tenant)
    (hnone : (s.credentials g).username = "" ∨ (s.credentials g).password = "") :
    s.providesSecret = true ∨ g.providesSecret = true := by
  have huser := hvalid.user
  have hpassword := hvalid.password
  unfold Section.credentials at hnone
  cases hs : s.providesSecret with
  | true => exact .inl rfl
  | false =>
    cases hg : g.providesSecret with
    | true => exact .inr rfl
    | false =>
      simp only [hs, hg, Bool.or_self, Bool.false_eq_true, if_false, orElse_eq_empty_iff] at hnone
      simp only [hs, hg, Bool.false_eq_true, false_or] at huser hpassword
      tauto

/-- A configuration is resolved exactly if it is without fault. Its endpoints are then those of its
tenants, one for each in ascending order; each has an address family and no family twice, and it may
begin without a user or a password only where a secret is to be had. -/
theorem resolve_iff_resolvable (c : Config) :
    ((∃ es, resolve c = .ok es) ↔ c.Resolvable) ∧
      ∀ es, resolve c = .ok es → Serves c es ∧ ∀ e ∈ es,
        e.families ≠ [] ∧ e.families.Nodup ∧
          (e.credentials.username = "" ∨ e.credentials.password = "" →
            ∃ s, Tenancy c e.tenant s ∧
              (s.providesSecret = true ∨ c.global.providesSecret = true)) := by
  refine ⟨?_, fun es hes => ⟨serves_of_resolve hes, fun e he => ?_⟩⟩
  · constructor
    · rintro ⟨es, hes⟩
      exact (resolve_eq_ok_iff.mp hes).1
    · intro h
      exact ⟨_, resolve_eq_ok_iff.mpr ⟨h, rfl⟩⟩
  · obtain ⟨hresolvable, -⟩ := resolve_eq_ok_iff.mp hes
    obtain ⟨s, hs, heq⟩ := ((serves_of_resolve hes).mem_iff e).mp he
    rw [heq]
    refine ⟨Family.priority_ne_nil _, Family.nodup_priority _, fun hnone => ⟨s, hs, ?_⟩⟩
    exact providesSecret_of_credentials (hresolvable.valid _ _ hs) hnone

/-- A configuration with two sections and a server of its own. -/
def threeSites : Config :=
  { global :=
      { user := "admin", password := "s3cret", server := "10.0.0.9", ipFamily := " ipv6, ,IPv4,ipv6" }
    sections :=
      ((∅ : Dict Section).insert "west.example"
        { user := "ops", secretName := "login", secretNamespace := "kube", port := some 8443 }).insert
          "east" { server := "10.0.0.1", datacenters := " DC1,,DC2 ", ipFamily := "ipv4" } }

def threeEndpoints : List Endpoint :=
  [⟨"10.0.0.9", "10.0.0.9", 443, ⟨"admin", "s3cret"⟩, "Global", false, [], [.ipv6, .ipv4]⟩,
    ⟨"east", "10.0.0.1", 443, ⟨"admin", "s3cret"⟩, "Global", false, ["DC1", "DC2"], [.ipv4]⟩,
    ⟨"west.example", "west.example", 8443, ⟨"ops", ""⟩, "kube/login", false, [], [.ipv6, .ipv4]⟩]

theorem resolve_iff_resolvable_sites :
    resolve threeSites = .ok threeEndpoints ∧ threeSites.Resolvable ∧
      Serves threeSites threeEndpoints := by
  obtain ⟨hiff, hserves⟩ := resolve_iff_resolvable threeSites
  have hresolve : resolve threeSites = .ok threeEndpoints := by decide +kernel
  exact ⟨hresolve, hiff.mp ⟨_, hresolve⟩, (hserves _ hresolve).1⟩

end NodeAtlas.Config
