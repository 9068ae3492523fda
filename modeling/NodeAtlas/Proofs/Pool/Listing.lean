import Mathlib.Data.List.Permutation
import NodeAtlas.Pool.Places
import NodeAtlas.Proofs.Machines.Rounds
import NodeAtlas.Proofs.Pool.Connect
import NodeAtlas.Proofs.Pool.Create
import NodeAtlas.Proofs.Pool.Enumeration
import NodeAtlas.Proofs.Text.Bytes

/-!
# Listings of places

A listing goes through the endpoints in the order of their tenants and then sorts what the scans have
found. As the sort leaves ties as they are, the places of some tenants are listed as if there were no
others, and whatever fails on one endpoint makes no difference to the rest.
-/

namespace NodeAtlas

open NodeAtlas.Text

/-- Where a place stands in a listing: by server and name of the datacenter, each compared by its bytes. -/
def Place.rank (x : Place) : List (List UInt8) := [bytes x.server, bytes x.datacenter.name]

/-- A listing of the places found: the same places, in ascending order, and those of one rank in the
order in which they were found. -/
structure Ranked (found listed : List Place) : Prop where
  perm : listed.Perm found
  ascending : listed.Pairwise fun a b => a.rank ≤ b.rank
  ties : ∀ k, listed.filter (·.rank = k) = found.filter (·.rank = k)

/-! ## Sorting -/

theorem Place.before_iff {a b : Place} : a.before b = true ↔ a.rank ≤ b.rank := by
  have hname : a.datacenter.name ≤ b.datacenter.name ↔
      bytes a.datacenter.name ≤ bytes b.datacenter.name := by
    rw [← String.not_lt, ← List.not_lt, bytes_lt_iff]
  have hnil : ([] : List (List UInt8)) ≤ [] := List.le_refl _
  unfold before rank
  rw [List.cons_le_cons_iff, List.cons_le_cons_iff, bytes_lt_iff]
  by_cases hserver : a.server = b.server
  · have hself : ¬ b.server < b.server := String.lt_irrefl _
    rw [if_pos hserver, decide_eq_true_iff, hname, hserver, List.le_iff_lt_or_eq]
    simp only [hself, hnil, false_or, true_and, and_true]
  · have hne : bytes a.server ≠ bytes b.server := fun h => hserver (bytes_injective h)
    rw [if_neg hserver, decide_eq_true_iff]
    simp only [hne, false_and, or_false]

namespace Ranked

variable {found listed listed' : List Place}

theorem rank_le_of_mem {x y : Place} {xs : List Place}
    (h : (x :: xs).Pairwise fun a b => a.rank ≤ b.rank) (hy : y ∈ x :: xs) : x.rank ≤ y.rank := by
  rcases List.mem_cons.mp hy with rfl | hy
  · exact List.le_refl _
  · exact (List.pairwise_cons.mp h).1 y hy

/-- The places found determine how they are listed. -/
theorem unique (h : Ranked found listed) (h' : Ranked found listed') : listed = listed' := by
  have hperm : listed.Perm listed' := h.perm.trans h'.perm.symm
  have hties : ∀ k, listed.filter (·.rank = k) = listed'.filter (·.rank = k) :=
    fun k => (h.ties k).trans (h'.ties k).symm
  have hsorted := h.ascending
  have hsorted' := h'.ascending
  clear h h'
  induction listed generalizing listed' with
  | nil => exact hperm.nil_eq
  | cons x xs ih =>
    cases listed' with
    | nil => exact hperm.eq_nil
    | cons y ys =>
      -- Each of the two first places stands no later than the other, so they tie.
      have hxy : x.rank ≤ y.rank := rank_le_of_mem hsorted (hperm.mem_iff.mpr List.mem_cons_self)
      have hyx : y.rank ≤ x.rank := rank_le_of_mem hsorted' (hperm.mem_iff.mp List.mem_cons_self)
      have hrank : y.rank = x.rank := List.le_antisymm hyx hxy
      have hfirst := hties x.rank
      rw [List.filter_cons_of_pos (by simp), List.filter_cons_of_pos (by simp [hrank])] at hfirst
      obtain ⟨rfl, -⟩ := List.cons.inj hfirst
      have hrest : ∀ k, xs.filter (·.rank = k) = ys.filter (·.rank = k) := by
        intro k
        have hk := hties k
        by_cases hx : x.rank = k
        · rw [List.filter_cons_of_pos (by simp [hx]), List.filter_cons_of_pos (by simp [hx])] at hk
          exact (List.cons.inj hk).2
        · rw [List.filter_cons_of_neg (by simp [hx]), List.filter_cons_of_neg (by simp [hx])] at hk
          exact hk
      rw [ih hperm.cons_inv hrest hsorted.of_cons hsorted'.of_cons]

/-- Leaving places out of what was found leaves them out of the listing and changes nothing else. -/
theorem filter (h : Ranked found listed) (q : Place → Bool) :
    Ranked (found.filter q) (listed.filter q) where
  perm := h.perm.filter q
  ascending := h.ascending.filter q
  ties k := by
    have hcomm : ∀ xs : List Place,
        (xs.filter q).filter (·.rank = k) = (xs.filter (·.rank = k)).filter q := by
      intro xs
      rw [List.filter_filter, List.filter_filter]
      simp only [Bool.and_comm]
    rw [hcomm, hcomm, h.ties k]

theorem mergeSort (found : List Place) : Ranked found (found.mergeSort Place.before) := by
  have htrans : ∀ a b c : Place, a.before b = true → b.before c = true → a.before c = true := by
    intro a b c hab hbc
    rw [Place.before_iff] at *
    exact List.le_trans hab hbc
  have htotal : ∀ a b : Place, (a.before b || b.before a) = true := by
    intro a b
    rw [Bool.or_eq_true, Place.before_iff, Place.before_iff]
    exact List.le_total _ _
  have hperm : (found.mergeSort Place.before).Perm found := List.mergeSort_perm _ _
  refine ⟨hperm, ?_, fun k => ?_⟩
  · exact (List.pairwise_mergeSort htrans htotal found).imp fun hab => Place.before_iff.mp hab
  · -- The places of one rank are in order as they are, so the sort leaves them in this order.
    have hsorted : (found.filter (·.rank = k)).Pairwise fun a b => a.before b = true := by
      refine List.pairwise_of_forall_mem_list fun a ha b hb => Place.before_iff.mpr ?_
      have hak : a.rank = k := by simpa using (List.mem_filter.mp ha).2
      have hbk : b.rank = k := by simpa using (List.mem_filter.mp hb).2
      rw [hak, hbk]
      exact List.le_refl _
    have hsub := (List.sublist_mergeSort htrans htotal hsorted List.filter_sublist).filter (·.rank = k)
    simp only [List.filter_filter, Bool.and_self] at hsub
    exact (hsub.eq_of_length (hperm.filter _).length_eq.symm).symm

end Ranked

namespace Pool

open Protocol

variable {p : Pool} {e : Endpoint}

/-! ## Scans -/

/-- The lookup of a datacenter by name with its answer. -/
def asked (e : Endpoint) (x : String × Result Datacenter) : interface.Exchange :=
  ⟨.session e.tenant (.getDatacenter x.1), x.2⟩

/-- How a scan goes. Either all datacenters are listed, or each name that counts is looked up, and a
lookup that fails adds its failure and nothing else. -/
inductive Scanned (e : Endpoint) : List interface.Exchange → Scan → Prop where
  | all (h : e.datacenters = []) (r : Result (List Datacenter)) :
      Scanned e [⟨.session e.tenant .listDatacenters, r⟩] ⟨r.toOption.getD [], (errorOf r).toList⟩
  | named (h : e.datacenters ≠ []) (answers : List (String × Result Datacenter))
      (hnames : answers.map (·.1) = e.datacenters) :
      Scanned e (answers.map (asked e))
        ⟨answers.filterMap (·.2.toOption), answers.filterMap (errorOf ·.2)⟩

theorem yields_lookupAll_iff {names : List String} {s s' : Scan} {xs : List interface.Exchange} :
    (lookupAll e s names).Yields xs s' ↔ ∃ answers : List (String × Result Datacenter),
      answers.map (·.1) = names ∧ xs = answers.map (asked e) ∧
        s' = ⟨s.found ++ answers.filterMap (·.2.toOption),
          s.failures ++ answers.filterMap (errorOf ·.2)⟩ := by
  induction names generalizing s xs with
  | nil =>
    rw [lookupAll, yields_pure_iff]
    constructor
    · rintro ⟨rfl, rfl⟩
      exact ⟨[], rfl, rfl, by simp⟩
    · rintro ⟨answers, hnames, rfl, rfl⟩
      obtain rfl := List.map_eq_nil_iff.mp hnames
      exact ⟨rfl, by simp⟩
  | cons name names ih =>
    rw [lookupAll]
    constructor
    · intro h
      obtain ⟨ys, answer, zs, hask, hrest, rfl⟩ := yields_bind_iff.mp h
      obtain rfl := yields_ask_iff.mp hask
      cases answer with
      | ok d =>
        obtain ⟨answers, rfl, rfl, rfl⟩ := ih.mp hrest
        exact ⟨(name, .ok d) :: answers, rfl, rfl, by simp [Except.toOption, errorOf]⟩
      | error err =>
        obtain ⟨answers, rfl, rfl, rfl⟩ := ih.mp hrest
        exact ⟨(name, .error err) :: answers, rfl, rfl, by simp [Except.toOption, errorOf]⟩
    · rintro ⟨answers, hnames, rfl, rfl⟩
      obtain ⟨⟨_, answer⟩, rest, rfl, rfl, rfl⟩ := List.map_eq_cons_iff.mp hnames
      refine yields_bind_iff.mpr ⟨_, answer, rest.map (asked e), yields_ask_iff.mpr rfl, ?_, rfl⟩
      cases answer with
      | ok d => exact ih.mpr ⟨rest, rfl, rfl, by simp [Except.toOption, errorOf]⟩
      | error err => exact ih.mpr ⟨rest, rfl, rfl, by simp [Except.toOption, errorOf]⟩

theorem yields_scan_iff {xs : List interface.Exchange} {s : Scan} :
    (scan e).Yields xs s ↔ Scanned e xs s := by
  unfold scan
  constructor
  · intro h
    split at h
    · rename_i hnone
      obtain ⟨ys, r, zs, hask, hret, rfl⟩ := yields_bind_iff.mp h
      obtain rfl := yields_ask_iff.mp hask
      cases r with
      | ok ds =>
        obtain ⟨rfl, rfl⟩ := yields_pure_iff.mp hret
        exact .all (List.isEmpty_iff.mp hnone) (.ok ds)
      | error err =>
        obtain ⟨rfl, rfl⟩ := yields_pure_iff.mp hret
        exact .all (List.isEmpty_iff.mp hnone) (.error err)
    · rename_i hsome
      obtain ⟨answers, hnames, rfl, rfl⟩ := yields_lookupAll_iff.mp h
      exact .named (by simpa using hsome) answers hnames
  · intro h
    cases h with
    | all hnone r =>
      rw [if_pos (by simp [hnone])]
      refine yields_ask_bind ?_
      cases r with
      | ok ds => exact .ret _
      | error err => exact .ret _
    | named hsome answers hnames =>
      rw [if_neg (by simpa using hsome)]
      exact yields_lookupAll_iff.mpr ⟨answers, hnames, rfl, rfl⟩

/-! ## Tours -/

/-- The places that a visit adds to a listing. -/
def Visit.places (v : Visit) : List Place :=
  v.found.map fun d => ⟨v.endpoint.tenant, v.endpoint.host, d⟩

/-- Visits to all endpoints of a pool in their order. -/
structure Tour (p : Pool) (vs : List Visit) : Prop where
  endpoints : vs.map Visit.endpoint = p.list
  possible : ∀ v ∈ vs, v.Possible p

theorem yields_placesOf_iff {es : List Endpoint} {xs : List interface.Exchange}
    {places : List Place} :
    (p.placesOf es).Yields xs places ↔ ∃ vs : List Visit, vs.map Visit.endpoint = es ∧
      (∀ v ∈ vs, v.Possible p) ∧ xs = vs.flatMap Visit.calls ∧ places = vs.flatMap Visit.places := by
  induction es generalizing xs places with
  | nil =>
    rw [placesOf, yields_pure_iff]
    constructor
    · rintro ⟨rfl, rfl⟩
      exact ⟨[], rfl, by simp, rfl, rfl⟩
    · rintro ⟨vs, hvs, -, rfl, rfl⟩
      obtain rfl := List.map_eq_nil_iff.mp hvs
      exact ⟨rfl, rfl⟩
  | cons e es ih =>
    rw [placesOf]
    constructor
    · intro h
      obtain ⟨calls, reached, zs, hconnect, hrest, rfl⟩ := yields_bind_iff.mp h
      cases reached with
      | error err =>
        obtain ⟨vs, rfl, hpossible, rfl, rfl⟩ := ih.mp hrest
        refine ⟨.unreachable e calls err :: vs, rfl, ?_, rfl, rfl⟩
        exact List.forall_mem_cons.mpr ⟨hconnect, hpossible⟩
      | ok _ =>
        obtain ⟨calls', s, zs', hscan, hlater, rfl⟩ := yields_bind_iff.mp hrest
        obtain ⟨zs'', rest, _, hothers, hret, rfl⟩ := yields_bind_iff.mp hlater
        obtain ⟨rfl, rfl⟩ := yields_pure_iff.mp hret
        obtain ⟨vs, rfl, hpossible, rfl, rfl⟩ := ih.mp hothers
        refine ⟨.scanned e calls calls' s :: vs, rfl, ?_, ?_, rfl⟩
        · exact List.forall_mem_cons.mpr ⟨⟨hconnect, hscan⟩, hpossible⟩
        · simp [Visit.calls]
    · rintro ⟨vs, hvs, hpossible, rfl, rfl⟩
      obtain ⟨v, vs, rfl, rfl, rfl⟩ := List.map_eq_cons_iff.mp hvs
      obtain ⟨hfirst, hothers⟩ := List.forall_mem_cons.mp hpossible
      have hrest := ih.mpr ⟨vs, rfl, hothers, rfl, rfl⟩
      cases v with
      | unreachable e calls err =>
        exact yields_bind_iff.mpr ⟨calls, .error err, _, hfirst, hrest, rfl⟩
      | scanned e calls calls' s =>
        obtain ⟨hconnect, hscan⟩ := hfirst
        refine yields_bind_iff.mpr
          ⟨calls, .ok (), calls' ++ vs.flatMap Visit.calls, hconnect, ?_, by simp [Visit.calls]⟩
        refine yields_bind_iff.mpr ⟨calls', s, _, hscan, ?_, rfl⟩
        exact yields_bind_iff.mpr ⟨_, _, [], hrest, .ret _, (List.append_nil _).symm⟩

theorem yields_places_iff {xs : List interface.Exchange} {places : List Place} :
    p.places.Yields xs places ↔ ∃ vs, p.Tour vs ∧ xs = vs.flatMap Visit.calls ∧
      Ranked (vs.flatMap Visit.places) places := by
  unfold Pool.places
  rw [bind_pure_comp, yields_map_iff]
  constructor
  · rintro ⟨found, h, rfl⟩
    obtain ⟨vs, hvs, hpossible, rfl, rfl⟩ := yields_placesOf_iff.mp h
    exact ⟨vs, ⟨hvs, hpossible⟩, rfl, .mergeSort _⟩
  · rintro ⟨vs, ⟨hvs, hpossible⟩, rfl, hlisting⟩
    refine ⟨_, yields_placesOf_iff.mpr ⟨vs, hvs, hpossible, rfl, rfl⟩, ?_⟩
    exact hlisting.unique (.mergeSort _)

/-! ## What failures elsewhere change -/

theorem filter_places_flatMap (vs : List Visit) (kept : String → Bool) :
    (vs.flatMap Visit.places).filter (fun x => kept x.tenant) =
      vs.flatMap fun v => if kept v.endpoint.tenant then v.places else [] := by
  rw [List.filter_flatMap]
  refine congrArg (fun f => vs.flatMap f) (funext fun v => ?_)
  have htenant : ∀ x ∈ v.places, x.tenant = v.endpoint.tenant := by
    intro x hx
    obtain ⟨d, -, rfl⟩ := List.mem_map.mp hx
    rfl
  cases hkept : kept v.endpoint.tenant with
  | true =>
    rw [if_pos rfl, List.filter_eq_self]
    intro x hx
    rw [htenant x hx, hkept]
  | false =>
    rw [if_neg Bool.false_ne_true, List.filter_eq_nil_iff]
    intro x hx
    rw [htenant x hx, hkept]
    exact Bool.false_ne_true

/-- Tours that find the same on some tenants lead to listings that agree about these. -/
theorem Tour.filter_eq {vs ws : List Visit} {listed listed' : List Place} {kept : String → Bool}
    (hv : p.Tour vs) (hw : p.Tour ws) (h : Ranked (vs.flatMap Visit.places) listed)
    (h' : Ranked (ws.flatMap Visit.places) listed')
    (hkept : ∀ v ∈ vs, ∀ u ∈ ws, v.endpoint = u.endpoint → kept v.endpoint.tenant = true →
      v.found = u.found) :
    listed.filter (fun x => kept x.tenant) = listed'.filter (fun x => kept x.tenant) := by
  have hfound : (vs.flatMap fun v => if kept v.endpoint.tenant then v.places else []) =
      ws.flatMap fun v => if kept v.endpoint.tenant then v.places else [] := by
    have hends : vs.map Visit.endpoint = ws.map Visit.endpoint := hv.endpoints.trans hw.endpoints.symm
    clear hv hw h h'
    induction vs generalizing ws with
    | nil => rw [List.map_eq_nil_iff.mp hends.symm]
    | cons v vs ih =>
      obtain ⟨u, us, rfl, hu, hus⟩ := List.map_eq_cons_iff.mp hends.symm
      have hrest := ih (fun v hv u hu => hkept v (List.mem_cons_of_mem _ hv) u
        (List.mem_cons_of_mem _ hu)) hus.symm
      have hfirst := hkept v List.mem_cons_self u List.mem_cons_self hu.symm
      rw [List.flatMap_cons, List.flatMap_cons, hrest, hu]
      cases htenant : kept v.endpoint.tenant with
      | false => rfl
      | true => simp only [if_true, Visit.places, hfirst htenant, hu]
  have hlisted := h.filter fun x => kept x.tenant
  have hlisted' := h'.filter fun x => kept x.tenant
  rw [filter_places_flatMap, hfound, ← filter_places_flatMap] at hlisted
  exact hlisted.unique hlisted'

/-- The places of a pool are what the scans have found on the endpoints that could be connected, each with
the tenant and the server of its endpoint and as often as it was found, in ascending order; ties come in
the order of the tenants and of each scan. A scan finds what is answered to its own calls. So whatever
else happens on the endpoints of other tenants, the places of some tenants are listed alike. -/
theorem places_of_tours {σ : Type} {endpoints : List Endpoint} {factory : Endpoint → Result σ}
    {managers : List String} {discovery : Config.Discovery} {sessions : Dict σ}
    (hp : create endpoints factory managers discovery = .ok (p, sessions)) :
    (p.list.Perm endpoints ∧ p.list.Pairwise fun a b => bytes a.tenant < bytes b.tenant) ∧
    (∀ xs places, p.places.Yields xs places ↔ ∃ vs, p.Tour vs ∧ xs = vs.flatMap Visit.calls ∧
      Ranked (vs.flatMap Visit.places) places) ∧
    (∀ e xs s, (scan e).Yields xs s ↔ Scanned e xs s) ∧
    (∀ {τ : Type} (h : interface.Handler τ) (t : τ), ∃ vs, p.Tour vs ∧
      Ranked (vs.flatMap Visit.places) (p.places.run h t).1) ∧
    ∀ vs ws places places' (kept : String → Bool), p.Tour vs → p.Tour ws →
      Ranked (vs.flatMap Visit.places) places → Ranked (ws.flatMap Visit.places) places' →
      (∀ v ∈ vs, ∀ u ∈ ws, v.endpoint = u.endpoint → kept v.endpoint.tenant = true →
        v.found = u.found) →
      places.filter (fun x => kept x.tenant) = places'.filter (fun x => kept x.tenant) := by
  refine ⟨⟨(perm_list_of_create hp).1, ?_⟩, fun xs places => yields_places_iff,
    fun e xs s => yields_scan_iff, ?_, ?_⟩
  · exact (ascending_of_create hp).imp fun hlt => bytes_lt_iff.mpr hlt
  · intro τ h t
    obtain ⟨xs, hxs⟩ := exists_yields_run h p.places t
    obtain ⟨vs, htour, -, hlisting⟩ := yields_places_iff.mp hxs
    exact ⟨vs, htour, hlisting⟩
  · intro vs ws places places' kept hv hw h h' hkept
    exact hv.filter_eq hw h h' hkept

/-! ## Three tenants at two addresses -/

/-- A world of two datacenters behind every address, in which some tenants do not reach their endpoints. -/
def twoDatacenters (down : List String) : interface.Handler Unit
  | .session _ .listDatacenters, s => (.ok [⟨"dc-2", "DC2", ""⟩, ⟨"dc-1", "DC1", ""⟩], s)
  | .session _ (.getDatacenter "DC1"), s => (.ok ⟨"dc-1", "DC1", ""⟩, s)
  | c, s =>
    smallWorld (fun t s => (if t ∈ down then .error (.connection "down") else .ok (), s))
      [] c s

/-- Two of them share an address, and one looks up a datacenter that does not exist. -/
def threeTenants : List Endpoint :=
  [{ endpointAt "c" "n" with datacenters := ["DC3", "DC1"] }, endpointAt "a" "n",
    { endpointAt "b" "m" with datacenters := ["DC1"] }]

def threePool : Pool := ⟨.ofList (threeTenants.map fun e => (e.tenant, e)), [], {}⟩

/-- The places of the other tenants. -/
def threePlaces : List Place :=
  [⟨"a", "n", ⟨"dc-1", "DC1", ""⟩⟩, ⟨"c", "n", ⟨"dc-1", "DC1", ""⟩⟩,
    ⟨"a", "n", ⟨"dc-2", "DC2", ""⟩⟩]

/-- The places at one address are sorted by name, with a tie in the order of the tenants, and come out
alike whether or not the endpoint at the other address is reached. -/
theorem places_of_tours_three :
    ∃ sessions : Dict Unit,
      create threeTenants (fun _ => .ok ()) [] {} = .ok (threePool, sessions) ∧
      (∃ vs, threePool.Tour vs ∧ Ranked (vs.flatMap Visit.places) threePlaces) ∧
      ∃ ws b, threePool.Tour ws ∧ b.tenant = "b" ∧
        Ranked (ws.flatMap Visit.places) (b :: threePlaces) := by
  obtain ⟨sessions, hcreate⟩ : ∃ sessions : Dict Unit,
      create threeTenants (fun _ => .ok ()) [] {} = .ok (threePool, sessions) := ⟨_, rfl⟩
  obtain ⟨-, -, -, hrun, -⟩ := places_of_tours hcreate
  have hdown : (threePool.places.run (twoDatacenters ["b"]) ()).1 = threePlaces := by cbv
  have hup : (threePool.places.run (twoDatacenters []) ()).1 =
      ⟨"b", "m", ⟨"dc-1", "DC1", ""⟩⟩ :: threePlaces := by
    cbv
  obtain ⟨vs, hvs, hlisting⟩ := hrun (twoDatacenters ["b"]) ()
  obtain ⟨ws, hws, hlisting'⟩ := hrun (twoDatacenters []) ()
  rw [hdown] at hlisting
  rw [hup] at hlisting'
  exact ⟨sessions, hcreate, ⟨vs, hvs, hlisting⟩, ws, _, hws, rfl, hlisting'⟩

end Pool

end NodeAtlas
