import NodeAtlas.Proofs.Config.Resolution
import NodeAtlas.Proofs.Pool.Listing

/-!
# Addresses of tenants

A section is served at the address that it gives, or at its own name if it gives none. The server of the
global settings becomes a tenant unless a section has its name. Nobody asks whether a section gives its
address, and where one does, the same server is served once more.
-/

namespace NodeAtlas.Config

variable {c : Config} {es : List Endpoint} {a : String}

/-- A section is served at the address. -/
def ServedBySection (c : Config) (a : String) : Prop :=
  ∃ tenant s, c.sections.find? tenant = some s ∧ orElse s.server tenant = a

/-- The number of sections that are served at the address. -/
def sectionsAt (c : Config) (a : String) : Nat :=
  c.sections.entries.countP fun x => orElse x.2.server x.1 = a

/-- The server of the global settings is a tenant of its own although a section gives its address. -/
structure Overlooked (c : Config) : Prop where
  free : c.sections.find? c.global.server = none
  given : ∃ tenant s, c.sections.find? tenant = some s ∧ s.server = c.global.server

/-- The endpoint for the server of the global settings. -/
def Global.endpoint (g : Global) : Endpoint := g.asSection.endpoint g g.server

theorem Global.host_endpoint (g : Global) : g.endpoint.host = g.server := by
  have hself : orElse g.server g.server = g.server := by
    unfold orElse
    split
    · rfl
    · rfl
  exact hself

/-! ## The added tenant -/

/-- If no section has the name of an address, only a section that gives it is served there. -/
theorem servedBySection_iff_of_free (hfree : c.sections.find? a = none) (ha : a ≠ "") :
    c.ServedBySection a ↔ ∃ tenant s, c.sections.find? tenant = some s ∧ s.server = a := by
  constructor
  · rintro ⟨tenant, s, hs, haddress⟩
    refine ⟨tenant, s, hs, ?_⟩
    unfold orElse at haddress
    split at haddress
    · rw [haddress, hfree] at hs
      cases hs
    · exact haddress
  · rintro ⟨tenant, s, hs, rfl⟩
    have hsome : ¬ s.server.isEmpty = true := by simpa using ha
    exact ⟨tenant, s, hs, if_neg hsome⟩

theorem allSections_of_named (hnamed : c.sections.find? c.global.server ≠ none) :
    allSections c = c.sections := by
  have hcontains : c.sections.contains c.global.server = true := by
    rw [Dict.contains_eq]
    exact Option.isSome_iff_ne_none.mpr hnamed
  unfold allSections
  rw [hcontains, Bool.or_true, if_pos rfl]

theorem perm_allSections_of_free (hserver : c.global.server ≠ "")
    (hfree : c.sections.find? c.global.server = none) :
    (allSections c).entries.Perm ((c.global.server, c.global.asSection) :: c.sections.entries) := by
  have hadd : (c.global.server.isEmpty || c.sections.contains c.global.server) = false := by
    rw [Dict.contains_eq, hfree]
    simpa using hserver
  have hnew : ∀ x ∈ c.sections.entries, x.1 ≠ c.global.server := by
    rintro ⟨tenant, s⟩ hx rfl
    exact Dict.find?_eq_none_iff.mp hfree s hx
  unfold allSections
  rw [hadd, if_neg Bool.false_ne_true]
  exact Dict.perm_insertEntry _ hnew

/-- No section has the name of the added tenant, and every other tenant has its own section. -/
theorem mem_and_unnamed_iff (h : resolve c = .ok es) (hserver : c.global.server ≠ "") (e : Endpoint) :
    e ∈ es ∧ c.sections.find? e.tenant = none ↔
      c.sections.find? c.global.server = none ∧ e = c.global.endpoint := by
  rw [(serves_of_resolve h).mem_iff e]
  constructor
  · rintro ⟨⟨s, hs, he⟩, hnone⟩
    generalize htenant : e.tenant = tenant at hs he hnone
    cases hs with
    | configured hfind =>
      rw [hnone] at hfind
      cases hfind
    | global _ hfree => exact ⟨hfree, he⟩
  · rintro ⟨hfree, rfl⟩
    exact ⟨⟨_, .global hserver hfree, rfl⟩, hfree⟩

theorem served_of_named (h : resolve c = .ok es) {e : Endpoint} (he : e ∈ es)
    (hnamed : c.sections.find? e.tenant ≠ none) :
    ∃ s, c.sections.find? e.tenant = some s ∧ orElse s.server e.tenant = e.host := by
  obtain ⟨s, hs, heq⟩ := ((serves_of_resolve h).mem_iff e).mp he
  have hhost : e.host = orElse s.server e.tenant := congrArg Endpoint.host heq
  generalize htenant : e.tenant = tenant at hs hnamed hhost
  cases hs with
  | configured hfind => exact ⟨s, hfind, hhost.symm⟩
  | global _ hfree => exact absurd hfree hnamed

theorem mem_of_named (h : resolve c = .ok es) {tenant : String} {s : Section}
    (hfind : c.sections.find? tenant = some s) : s.endpoint c.global tenant ∈ es :=
  ((serves_of_resolve h).mem_iff _).mpr ⟨s, .configured hfind, rfl⟩

/-- The added tenant has its address to itself unless it was overlooked. -/
theorem added_alone_iff (h : resolve c = .ok es) (hserver : c.global.server ≠ "") :
    (∀ e ∈ es, c.sections.find? e.tenant = none → ¬ c.ServedBySection c.global.server) ↔
      ¬ c.Overlooked := by
  constructor
  · rintro halone ⟨hfree, hgiven⟩
    obtain ⟨hmem, hnone⟩ := (mem_and_unnamed_iff h hserver _).mpr ⟨hfree, rfl⟩
    have hserved := (servedBySection_iff_of_free hfree hserver).mpr hgiven
    exact halone _ hmem hnone hserved
  · rintro hnot e he hnone hserved
    obtain ⟨hfree, -⟩ := (mem_and_unnamed_iff h hserver e).mp ⟨he, hnone⟩
    have hgiven := (servedBySection_iff_of_free hfree hserver).mp hserved
    exact hnot ⟨hfree, hgiven⟩

/-- Two endpoints at one address are both those of sections unless the added tenant was overlooked. -/
theorem shared_by_sections_iff (h : resolve c = .ok es) (hserver : c.global.server ≠ "") :
    (∀ e ∈ es, ∀ e' ∈ es, e ≠ e' → e.host = e'.host →
      (∃ s, c.sections.find? e.tenant = some s ∧ orElse s.server e.tenant = e.host) ∧
        ∃ s, c.sections.find? e'.tenant = some s ∧ orElse s.server e'.tenant = e.host) ↔
      ¬ c.Overlooked := by
  constructor
  · rintro hshared ⟨hfree, tenant, s, hfind, hgiven⟩
    obtain ⟨hmem, hnone⟩ := (mem_and_unnamed_iff h hserver _).mpr ⟨hfree, rfl⟩
    have hmem' : s.endpoint c.global tenant ∈ es := mem_of_named h hfind
    have hhost : c.global.endpoint.host = (s.endpoint c.global tenant).host := by
      have hsome : ¬ s.server.isEmpty = true := by simpa [hgiven] using hserver
      have hserved : orElse s.server tenant = s.server := if_neg hsome
      rw [c.global.host_endpoint, ← hgiven]
      exact hserved.symm
    have hne : c.global.endpoint ≠ s.endpoint c.global tenant := by
      intro heq
      have htenant : c.global.server = tenant := congrArg Endpoint.tenant heq
      rw [htenant, hfind] at hfree
      cases hfree
    obtain ⟨⟨s', hfind', -⟩, -⟩ := hshared _ hmem _ hmem' hne hhost
    rw [hnone] at hfind'
    cases hfind'
  · rintro hnot
    have hsection : ∀ e ∈ es, ∀ e' ∈ es, e ≠ e' → e.host = e'.host →
        c.sections.find? e.tenant ≠ none := by
      intro e he e' he' hne hhost hnone
      obtain ⟨hfree, rfl⟩ := (mem_and_unnamed_iff h hserver e).mp ⟨he, hnone⟩
      have hnamed' : c.sections.find? e'.tenant ≠ none := by
        intro hnone'
        exact hne ((mem_and_unnamed_iff h hserver e').mp ⟨he', hnone'⟩).2.symm
      obtain ⟨s, hfind, hserved⟩ := served_of_named h he' hnamed'
      have haddress : orElse s.server e'.tenant = c.global.server := by
        rw [hserved, ← hhost, c.global.host_endpoint]
      have hgiven := (servedBySection_iff_of_free hfree hserver).mp ⟨_, s, hfind, haddress⟩
      exact hnot ⟨hfree, hgiven⟩
    intro e he e' he' hne hhost
    have hserved := served_of_named h he (hsection e he e' he' hne hhost)
    have hserved' := served_of_named h he' (hsection e' he' e he hne.symm hhost.symm)
    rw [← hhost] at hserved'
    exact ⟨hserved, hserved'⟩

/-! ## Counting endpoints -/

theorem countP_host_of_resolve (h : resolve c = .ok es) (hserver : c.global.server ≠ "") (a : String) :
    es.countP (·.host = a) =
      c.sectionsAt a + if a = c.global.server ∧ c.sections.find? a = none then 1 else 0 := by
  obtain ⟨-, rfl⟩ := resolve_eq_ok_iff.mp h
  have hcount : ((allSections c).entries.map fun x => x.2.endpoint c.global x.1).countP (·.host = a) =
      (allSections c).entries.countP fun x => orElse x.2.server x.1 = a := by
    rw [List.countP_map]
    rfl
  rw [hcount]
  by_cases hfree : c.sections.find? c.global.server = none
  · have hhost : orElse c.global.asSection.server c.global.server = c.global.server :=
      c.global.host_endpoint
    have hmatch : (a = c.global.server ∧ c.sections.find? a = none) ↔ c.global.server = a := by
      constructor
      · rintro ⟨rfl, -⟩
        rfl
      · rintro rfl
        exact ⟨rfl, hfree⟩
    rw [(perm_allSections_of_free hserver hfree).countP_eq, List.countP_cons, hhost]
    simp only [hmatch, decide_eq_true_eq]
    rfl
  · have hnot : ¬ (a = c.global.server ∧ c.sections.find? a = none) := by
      rintro ⟨rfl, hnone⟩
      exact hfree hnone
    rw [allSections_of_named hfree, if_neg hnot, Nat.add_zero]
    rfl

/-- A tour of a pool passes by an address once for every endpoint there. -/
theorem countP_host_of_tour {σ : Type} {factory : Endpoint → Result σ} {managers : List String}
    {discovery : Discovery} {p : Pool} {sessions : Dict σ}
    (hp : Pool.create es factory managers discovery = .ok (p, sessions)) {vs : List Pool.Visit}
    (htour : p.Tour vs) (a : String) :
    vs.countP (·.endpoint.host = a) = es.countP (·.host = a) := by
  have hlist : (vs.map Pool.Visit.endpoint).countP (·.host = a) = es.countP (·.host = a) := by
    rw [htour.endpoints]
    exact (Pool.perm_list_of_create hp).1.countP_eq _
  rw [List.countP_map] at hlist
  exact hlist

/-- The server of the global settings becomes an endpoint exactly if no section has its name. So it is
served twice exactly where a section of another name gives its address: everywhere else it is added only
if no section is served there, and endpoints at one address all belong to sections that are served
there. Each address has as many endpoints as sections are served at it, and the added one, and this is
how often a listing or a search goes through its datacenters. -/
theorem served_once_unless_overlooked (h : resolve c = .ok es) (hserver : c.global.server ≠ "") :
    (∀ e, e ∈ es ∧ c.sections.find? e.tenant = none ↔
      c.sections.find? c.global.server = none ∧ e = c.global.endpoint) ∧
    ((∀ e ∈ es, c.sections.find? e.tenant = none → ¬ c.ServedBySection c.global.server) ↔
      ¬ c.Overlooked) ∧
    ((∀ e ∈ es, ∀ e' ∈ es, e ≠ e' → e.host = e'.host →
        (∃ s, c.sections.find? e.tenant = some s ∧ orElse s.server e.tenant = e.host) ∧
        ∃ s, c.sections.find? e'.tenant = some s ∧ orElse s.server e'.tenant = e.host) ↔
      ¬ c.Overlooked) ∧
    (∀ a, es.countP (·.host = a) =
      c.sectionsAt a + if a = c.global.server ∧ c.sections.find? a = none then 1 else 0) ∧
    ∀ {σ : Type} {factory : Endpoint → Result σ} {managers : List String} {discovery : Discovery}
      {p : Pool} {sessions : Dict σ},
      Pool.create es factory managers discovery = .ok (p, sessions) → ∀ vs, p.Tour vs → ∀ a,
        vs.countP (·.endpoint.host = a) = es.countP (·.host = a) := by
  refine ⟨mem_and_unnamed_iff h hserver, added_alone_iff h hserver, shared_by_sections_iff h hserver,
    countP_host_of_resolve h hserver, ?_⟩
  intro σ factory managers discovery p sessions hp vs htour a
  exact countP_host_of_tour hp htour a

/-! ## A server under two names -/

/-- Sections of the given names that all give the server of the global settings as their address. -/
def renamed (tenants : List String) : Config :=
  { global := { user := "admin", password := "s3cret", server := "n" }
    sections := .ofList (tenants.map fun tenant => (tenant, { server := "n" })) }

def renamedEndpoint (tenant : String) : Endpoint :=
  ⟨tenant, "n", 443, ⟨"admin", "s3cret"⟩, globalSecretRef, false, [], [.ipv4]⟩

theorem served_once_unless_overlooked_renamed :
    resolve (renamed ["a", "b"]) = .ok (["a", "b", "n"].map renamedEndpoint) ∧
      (renamed ["a", "b"]).Overlooked ∧
      (["a", "b", "n"].map renamedEndpoint).countP (·.host = "n") =
        (renamed ["a", "b"]).sectionsAt "n" + 1 ∧
      (renamed ["n"]).sectionsAt "n" = 1 ∧ ¬ (renamed ["n"]).Overlooked := by
  have hresolve : resolve (renamed ["a", "b"]) = .ok (["a", "b", "n"].map renamedEndpoint) := by
    decide +kernel
  have hnamed : resolve (renamed ["n"]) = .ok [renamedEndpoint "n"] := by decide +kernel
  have hserver : (renamed ["a", "b"]).global.server ≠ "" := by decide
  have hserver' : (renamed ["n"]).global.server ≠ "" := by decide
  obtain ⟨-, -, -, hcount, -⟩ := served_once_unless_overlooked hresolve hserver
  obtain ⟨-, halone, -, hcount', -⟩ := served_once_unless_overlooked hnamed hserver'
  have hover : (renamed ["a", "b"]).Overlooked :=
    ⟨by decide +kernel, "a", { server := "n" }, by decide +kernel, rfl⟩
  have hfind : (renamed ["n"]).sections.find? "n" = some { server := "n" } := by decide +kernel
  refine ⟨hresolve, hover, (hcount "n").trans ?_, ?_, halone.mp ?_⟩
  · rw [if_pos ⟨rfl, hover.free⟩]
  · have hone := hcount' "n"
    rw [hfind, if_neg (by simp), Nat.add_zero] at hone
    exact hone.symm
  · intro e he hnone
    obtain rfl : e = renamedEndpoint "n" := by simpa using he
    have htenant : (renamedEndpoint "n").tenant = "n" := rfl
    rw [htenant, hfind] at hnone
    cases hnone

/-- One section gives the server of the global settings as its address, and still the server becomes an
endpoint of its own: its datacenters are listed under both tenants. -/
theorem exists_served_twice :
    ∃ c es, resolve c = .ok es ∧ c.global.server = "n" ∧ c.sectionsAt "n" = 1 ∧
      c.ServedBySection "n" ∧ (∃ e ∈ es, e.host = "n" ∧ c.sections.find? e.tenant = none) ∧
      ∃ p : Pool, ∃ sessions : Dict Unit, Pool.create es (fun _ => .ok ()) [] {} = .ok (p, sessions) ∧
        (p.places.run (Pool.twoDatacenters []) ()).1 =
          [⟨"a", "n", ⟨"dc-1", "DC1", ""⟩⟩, ⟨"n", "n", ⟨"dc-1", "DC1", ""⟩⟩,
            ⟨"a", "n", ⟨"dc-2", "DC2", ""⟩⟩, ⟨"n", "n", ⟨"dc-2", "DC2", ""⟩⟩] := by
  refine ⟨renamed ["a"], ["a", "n"].map renamedEndpoint, by decide +kernel, rfl, by decide +kernel,
    ⟨"a", { server := "n" }, by decide +kernel, by decide⟩,
    ⟨renamedEndpoint "n", by decide, rfl, by decide +kernel⟩, ?_⟩
  refine ⟨_, _, rfl, ?_⟩
  cbv

end NodeAtlas.Config
