import NodeAtlas.Proofs.Pool.Connect
import NodeAtlas.Proofs.Pool.Enumeration
import NodeAtlas.Search.Zones

/-!
# Surveys of hosts

What the producer of a search for a zone does about every endpoint. Of each datacenter that a scan finds,
it asks for the hosts and puts all of them on the queue. Where hosts cannot be listed, the failure is
recorded and the next datacenter comes; no other host is ever put on the queue.
-/

namespace NodeAtlas.Pool

open Protocol

/-- The answer to a request for the hosts of a datacenter. -/
structure Listing where
  datacenter : Datacenter
  answer : Result (List Host)

namespace Listing

/-- The request to the session of an endpoint, with its answer. -/
def call (e : Endpoint) (l : Listing) : interface.Exchange :=
  ⟨.session e.tenant (.listHosts l.datacenter), l.answer⟩

/-- The tasks for the queue. -/
def hosts (e : Endpoint) (l : Listing) : List HostSite :=
  match l.answer with
  | .ok hosts => hosts.map fun h => ⟨⟨e, l.datacenter⟩, h⟩
  | .error _ => []

def failures (l : Listing) : List Error := (errorOf l.answer).toList

/-- All exchanges of the producer about the datacenter. -/
def exchanges (e : Endpoint) (l : Listing) : List (Search.interface interface HostSite).Exchange :=
  ⟨.isOver, false⟩ :: Search.outward (l.call e) ::
    (l.failures.map (fun err => ⟨.record err, ()⟩) ++ (l.hosts e).map fun t => ⟨.push t, true⟩)

end Listing

/-- What a producer of hosts did about an endpoint. -/
structure Survey where
  visit : Visit
  /-- The answers for the datacenters that were found. -/
  listings : List Listing

namespace Survey

def endpoint (v : Survey) : Endpoint := v.visit.endpoint

/-- The tasks for the queue. -/
def hosts (v : Survey) : List HostSite := v.listings.flatMap fun l => l.hosts v.endpoint

/-- The failures that were recorded: of connecting, of the scan, and of listing hosts. -/
def failures (v : Survey) : List Error := v.visit.failures ++ v.listings.flatMap Listing.failures

/-- All exchanges of the producer about the endpoint. -/
def exchanges (v : Survey) : List (Search.interface interface HostSite).Exchange :=
  v.visit.opening ++ v.listings.flatMap fun l => l.exchanges v.endpoint

/-- The survey is one that the pool can make: the visit is, and the hosts of each datacenter that was
found were asked for. -/
structure Possible (p : Pool) (v : Survey) : Prop where
  visit : v.visit.Possible p
  listed : v.listings.map Listing.datacenter = v.visit.found

end Survey

variable {p : Pool} {e : Endpoint} {ds : List Datacenter}
  {zs : List (Search.interface interface HostSite).Exchange}

theorem produceHosts_eq (p : Pool) (es : List Endpoint) :
    p.produceHosts es = p.enumerate produceHostsAt es := by
  induction es with
  | nil => rfl
  | cons e es ih =>
    unfold produceHosts enumerate
    rewrite [ih]
    rfl

/-! ## All datacenters are listed -/

/-- A producer that is not told to stop asks for the hosts of all datacenters. -/
theorem exists_listings_of_yields {more : Bool} (h : (produceHostsAt e ds).Yields zs more)
    (hu : ∀ y ∈ zs, Search.Unhurried y) :
    more = true ∧ ∃ ls : List Listing, ls.map Listing.datacenter = ds ∧
      zs = ls.flatMap fun l => l.exchanges e := by
  induction ds generalizing zs with
  | nil =>
    obtain ⟨rfl, rfl⟩ := yields_pure_iff.mp h
    exact ⟨rfl, [], rfl, rfl⟩
  | cons d ds ih =>
    rw [produceHostsAt] at h
    obtain ⟨_, ended, zs₁, hask, h₁, rfl⟩ := yields_bind_iff.mp h
    rw [Search.yields_ask_iff] at hask
    subst hask
    obtain rfl : ended = false := hu ⟨.isOver, ended⟩ (by simp)
    rw [if_neg Bool.false_ne_true] at h₁
    obtain ⟨_, answer, zs₂, hlist, h₂, rfl⟩ := yields_bind_iff.mp h₁
    obtain ⟨xs, hxs, rfl⟩ := Search.yields_lift_iff.mp hlist
    obtain rfl := yields_ask_iff.mp hxs
    cases answer with
    | error err =>
      obtain ⟨_, _, zs₃, hrecord, h₃, rfl⟩ := yields_bind_iff.mp h₂
      rw [Search.yields_ask_iff.mp hrecord] at hu ⊢
      obtain ⟨rfl, ls, hls, rfl⟩ := ih h₃ fun y hy => hu y (by simp [hy])
      exact ⟨rfl, ⟨d, .error err⟩ :: ls, by rw [List.map_cons, hls], rfl⟩
    | ok hosts =>
      obtain ⟨zs₃, wanted, zs₄, hpush, h₃, rfl⟩ := yields_bind_iff.mp h₂
      obtain ⟨rfl, rfl⟩ := pushAll_of_unhurried hpush fun y hy => hu y (by simp [hy])
      obtain ⟨rfl, ls, hls, rfl⟩ := ih h₃ fun y hy => hu y (by simp [hy])
      refine ⟨rfl, ⟨d, .ok hosts⟩ :: ls, by rw [List.map_cons, hls], ?_⟩
      rw [List.flatMap_cons]
      rfl

theorem exists_listings_of_explored {v : Visit} (h : v.Explored produceHostsAt zs)
    (hu : ∀ y ∈ zs, Search.Unhurried y) :
    ∃ ls : List Listing, ls.map Listing.datacenter = v.found ∧
      zs = ls.flatMap fun l => l.exchanges v.endpoint := by
  cases v with
  | unreachable => exact ⟨[], rfl, h⟩
  | scanned => exact (exists_listings_of_yields h hu).2

/-- A producer that is not told to stop surveys all endpoints. -/
theorem exists_surveys {es : List Endpoint}
    {ys : List (Search.interface interface HostSite).Exchange} {u : Unit}
    (h : (p.produceHosts es).Yields ys u) (hu : ∀ y ∈ ys, Search.Unhurried y) :
    ∃ vs : List Survey, vs.map Survey.endpoint = es ∧ (∀ v ∈ vs, v.Possible p) ∧
      ys = vs.flatMap Survey.exchanges := by
  rw [produceHosts_eq] at h
  induction es generalizing ys with
  | nil => exact ⟨[], rfl, by simp, (yields_pure_iff.mp h).1⟩
  | cons e es ih =>
    obtain ⟨v, zs, rest, rfl, hpossible, hexplored, rfl, hrest⟩ :=
      exists_visit_of_yields (fun _ _ _ hzs huzs => (exists_listings_of_yields hzs huzs).1) h hu
    obtain ⟨vs, hvs, hpossibles, rfl⟩ := ih hrest fun y hy => hu y (List.mem_append_right _ hy)
    obtain ⟨ls, hls, rfl⟩ := exists_listings_of_explored hexplored fun y hy => hu y (by simp [hy])
    refine ⟨⟨v, ls⟩ :: vs, by rw [List.map_cons, hvs]; rfl, ?_, ?_⟩
    · exact List.forall_mem_cons.mpr ⟨⟨hpossible, hls⟩, hpossibles⟩
    · rw [List.flatMap_cons]
      rfl

/-! ## Why hosts are put on the queue -/

/-- A host on the queue is one of those that were listed in a datacenter of the endpoint. -/
theorem listed_of_asks_push {t : HostSite} (h : (produceHostsAt e ds).Asks zs (.push t)) :
    t.site.endpoint = e ∧ t.site.datacenter ∈ ds ∧
      ∃ hosts, t.host ∈ hosts ∧ Search.outward (Listing.call e ⟨t.site.datacenter, .ok hosts⟩) ∈ zs := by
  induction ds generalizing zs with
  | nil => exact (not_asks_ret _ _ _ h).elim
  | cons d ds ih =>
    have hlater : ∀ ys, (produceHostsAt e ds).Asks ys (.push t) → ys <:+ zs →
        t.site.endpoint = e ∧ t.site.datacenter ∈ d :: ds ∧ ∃ hosts, t.host ∈ hosts ∧
          Search.outward (Listing.call e ⟨t.site.datacenter, .ok hosts⟩) ∈ zs := by
      intro ys hys hsuffix
      obtain ⟨he, hd, hosts, hmem, hcall⟩ := ih hys
      exact ⟨he, List.mem_cons_of_mem _ hd, hosts, hmem, hsuffix.subset hcall⟩
    rw [produceHostsAt] at h
    rcases asks_bind_iff.mp h with h₁ | ⟨xs₁, ended, zs₁, -, h₁, rfl⟩
    · exact nomatch (Search.asks_ask_iff.mp h₁).2
    cases ended with
    | true => exact (not_asks_ret _ _ _ h₁).elim
    | false =>
      rw [if_neg Bool.false_ne_true] at h₁
      rcases asks_bind_iff.mp h₁ with h₂ | ⟨_, answer, zs₂, hlist, h₂, rfl⟩
      · exact nomatch (Search.outer_of_asks_lift h₂).choose_spec
      obtain ⟨xs, hxs, rfl⟩ := Search.yields_lift_iff.mp hlist
      obtain rfl := yields_ask_iff.mp hxs
      cases answer with
      | error err =>
        rcases asks_bind_iff.mp h₂ with h₃ | ⟨xs₃, _, zs₃, -, h₃, rfl⟩
        · exact nomatch (Search.asks_ask_iff.mp h₃).2
        · refine hlater zs₃ h₃ (.trans ?_ (List.suffix_append xs₁ _))
          exact (List.suffix_append xs₃ zs₃).trans (List.suffix_append _ _)
      | ok hosts =>
        rcases asks_bind_iff.mp h₂ with h₃ | ⟨xs₃, wanted, zs₃, -, h₃, rfl⟩
        · obtain ⟨t', ht', heq⟩ := mem_of_asks_pushAll h₃
          obtain ⟨host, hhost, rfl⟩ := List.mem_map.mp ht'
          cases heq
          refine ⟨rfl, List.mem_cons_self, hosts, hhost, ?_⟩
          simp [Listing.call]
        cases wanted with
        | false => exact (not_asks_ret _ _ _ h₃).elim
        | true =>
          refine hlater zs₃ h₃ (.trans ?_ (List.suffix_append xs₁ _))
          exact (List.suffix_append xs₃ zs₃).trans (List.suffix_append _ _)

/-- The datacenter of a host on the queue was found by a scan, and the host is listed there. -/
theorem surveyed_of_asks_push {es : List Endpoint} {t : HostSite}
    (h : (p.produceHosts es).Asks zs (.push t)) :
    t.site.endpoint ∈ es ∧
      (∃ calls s, (scan t.site.endpoint).Yields calls s ∧ calls.map Search.outward <:+: zs ∧
        t.site.datacenter ∈ s.found) ∧
      ∃ hosts, t.host ∈ hosts ∧
        Search.outward (Listing.call t.site.endpoint ⟨t.site.datacenter, .ok hosts⟩) ∈ zs := by
  rw [produceHosts_eq] at h
  induction es generalizing zs with
  | nil => exact (not_asks_ret _ _ _ h).elim
  | cons e es ih =>
    rcases juncture_of_asks h with hfirst | ⟨xs, ys, hys, rfl⟩
    · cases hfirst with
      | @explored calls s gs _ hcalls hpart hgs hd =>
        obtain ⟨rfl, hfound, hosts, hhost, hcall⟩ := listed_of_asks_push hd
        exact ⟨List.mem_cons_self, ⟨calls, s, hcalls, hpart, hfound⟩, hosts, hhost,
          hgs.subset hcall⟩
    · obtain ⟨he, ⟨calls, s, hcalls, hpart, hfound⟩, hosts, hhost, hcall⟩ := ih hys
      have hsuffix := List.suffix_append xs ys
      exact ⟨List.mem_cons_of_mem _ he, ⟨calls, s, hcalls, hpart.trans hsuffix.isInfix, hfound⟩,
        hosts, hhost, hsuffix.subset hcall⟩

end NodeAtlas.Pool
