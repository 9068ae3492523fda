import NodeAtlas.Proofs.Machines.Lookups
import NodeAtlas.Proofs.Machines.Rounds
import NodeAtlas.Proofs.Machines.Visits
import NodeAtlas.Proofs.Pool.Create

/-!
# Finding machines

A machine that is found is where the result says: the datacenter came from a scan of a configured
endpoint, and the machine from a lookup in that datacenter with the key of the round. A round that
finds nothing has visited every endpoint and searched every datacenter that the scans found, whatever
failed on the way.
-/

namespace NodeAtlas.Pool

open Protocol Search

variable {p : Pool} {w : World Pool.interface}

/-! ## Rounds without a match -/

theorem filterMap_wanted (v : Visit) : v.exchanges.filterMap wanted? = v.sites := by
  simp only [Visit.exchanges, List.filterMap_append, List.filterMap_cons, filterMap_wanted_outward,
    filterMap_wanted_record, filterMap_wanted_push]
  rfl

/-- Nothing was left out in a round: all of these visits were made, and every datacenter that they
found was searched, once for each time it was found. -/
structure Thorough (p : Pool) (visits : List Visit) (r : Round.Report) : Prop where
  /-- The visits are such as the pool makes. -/
  possible : ∀ v ∈ visits, v.Possible p
  /-- They are all that the producer did. -/
  visited : exchanges r.events = visits.flatMap Visit.exchanges
  /-- What failed in them was recorded. -/
  recorded : ∀ v ∈ visits, ∀ err ∈ v.failures, .recorded err ∈ r.events
  /-- Every datacenter was handed to a worker once for each time it was found. -/
  taken : takes r.events = visits.flatMap Visit.sites
  /-- The work on each of them has ended. -/
  finished : (finishes r.events).Perm (visits.flatMap Visit.sites)
  /-- The work on each of them was a miss, or it failed and the failure was recorded. -/
  searched : ∀ t ∈ visits.flatMap Visit.sites, ∃ res : Result (Option Found),
    Performed (p.findAt r.round.lookup r.round.key) r.events t res ∧
      (res = .ok none ∧ .missed t ∈ r.events ∨ ∃ err, res = .error err ∧ .failed t err ∈ r.events)

theorem thorough_of_made {r : Round.Report} (hr : Round.Made p w r) (hu : Round.Unmatched r) :
    ∃ visits : List Visit, visits.map Visit.endpoint = p.list ∧ Thorough p visits r := by
  obtain ⟨world, after, hends⟩ := hr
  have hex : Exhausts (p.produceSites p.list) (p.findAt r.round.lookup r.round.key) r.events :=
    exhausts_of_ends workers_within_pos hends hu
  obtain ⟨visits, hlist, hpossible, hvisits⟩ := exists_visits hex.complete hex.unhurried
  have hpushes : pushes r.events = visits.flatMap Visit.sites := by
    rw [pushes_eq, hvisits, List.filterMap_flatMap]
    simp only [filterMap_wanted]
  refine ⟨visits, hlist, hpossible, hvisits, ?_, hex.taken.trans hpushes,
    hpushes ▸ hex.finished, ?_⟩
  · intro v hv err herr
    rw [recorded_mem_iff, hvisits]
    refine List.mem_flatMap.mpr ⟨v, hv, ?_⟩
    simp [Visit.exchanges, herr]
  · intro t ht
    obtain ⟨res, hmiss, hperformed⟩ := hex.missed t (hpushes ▸ ht)
    obtain ⟨-, -, -, hend⟩ := hperformed.worked_mem
    refine ⟨res, hperformed, ?_⟩
    rcases res with err | _ | f
    · exact .inr ⟨err, rfl, hend⟩
    · exact .inl ⟨rfl, hend⟩
    · exact (hmiss f rfl).elim

/-! ## Rounds with a match -/

/-- What is known about a machine that a round has found on an endpoint. -/
structure FoundOn (e : Endpoint) (r : Round.Report) (f : Found) : Prop where
  /-- The result names the tenant. -/
  tenant : f.place.tenant = e.tenant
  /-- It names the address of the endpoint. -/
  server : f.place.server = e.host
  /-- A scan of the endpoint in this round found the datacenter. -/
  scanned : ∃ calls s, (scan e).Yields calls s ∧ f.place.datacenter ∈ s.found ∧
    calls.map outward <:+: exchanges r.events
  /-- A lookup in the datacenter answered the machine. -/
  lookedUp : .worked ⟨e, f.place.datacenter⟩ (lookedUp r.round.lookup r.round.key
    ⟨e, f.place.datacenter⟩ (.ok f.machine)) ∈ r.events
  /-- The UUID is that of the machine in canonical form. -/
  uuid : f.uuid = canonicalize f.machine.uuid
  /-- The node has the name of the machine, or the address by which it was looked up. -/
  nodeName : f.nodeName = if r.round.lookup = .ip then r.round.key else f.machine.name

/-- A match of a round is on one of the endpoints of the pool. -/
theorem foundOn_of_made {r : Round.Report} (hr : Round.Made p w r) {f : Found}
    (hf : r.outcome = .found f) : ∃ e ∈ p.list, FoundOn e r f := by
  obtain ⟨world, after, hends⟩ := hr
  obtain ⟨t, ht⟩ := verdict_eq_found_iff.mp ((eq_verdict_of_ends hends).symm.trans hf)
  obtain ⟨hpush, hperformed⟩ := performed_of_match hends (List.mem_of_mem_head? ht)
  obtain ⟨xs, hxs, hworked, -⟩ := hperformed.worked_mem
  obtain ⟨ys, zs, hys, hasks⟩ := asks_of_ends workers_within_pos hends (push_mem_exchanges hpush)
  obtain ⟨vm, hvm, rfl⟩ := (course_of_yields hxs).lookedUp_of_found
  cases occasion_of_asks hasks with
  | @found e calls s d he hcalls hpart hd =>
    refine ⟨e, he, rfl, rfl, ⟨calls, s, hcalls, hd, ?_⟩, hworked _ hvm, rfl, rfl⟩
    rw [hys]
    exact hpart.trans (List.prefix_append ys _).isInfix

/-! ## All rounds -/

/-- What a search for a machine finds is there, and what it does not find was looked for everywhere.
A match is one of the last round, on a configured endpoint. Every round without a match has visited
every endpoint and searched every datacenter that was found there; and without any match, all rounds
were made. -/
theorem found_or_searched_everywhere {σ : Type} {endpoints : List Endpoint}
    {factory : Endpoint → Result σ} {managers : List String} {discovery : Config.Discovery}
    {sessions : Dict σ} (hp : create endpoints factory managers discovery = .ok (p, sessions))
    {lookup : Lookup} {id : String} {world after : w.State} {res : Result Found}
    {log : List Round.Report} (h : Plays (p.rounds w) (seek lookup id) (world, []) res (after, log)) :
    log.map Report.round <+: roundsFor lookup id ∧
    (∀ f, res = .ok f → ∃ r ∈ log, r.outcome = .found f ∧
      ∃ e ∈ endpoints, p.endpoint e.tenant = .ok e ∧ FoundOn e r f) ∧
    (∀ r ∈ log, Round.Unmatched r →
      ∃ visits : List Visit, (visits.map Visit.endpoint).Perm endpoints ∧ Thorough p visits r) ∧
    (isBlankId lookup id = false → (∀ f, res ≠ .ok f) →
      log.map Report.round = roundsFor lookup id ∧ ∀ r ∈ log, Round.Unmatched r) := by
  obtain ⟨hperm, hendpoint⟩ := perm_list_of_create hp
  have hmade : ∀ r ∈ log, Round.Made p w r := made_of_plays h (by simp)
  have hthorough : ∀ r ∈ log, Round.Unmatched r →
      ∃ visits : List Visit, (visits.map Visit.endpoint).Perm endpoints ∧ Thorough p visits r := by
    intro r hr hu
    obtain ⟨visits, hlist, hth⟩ := thorough_of_made (hmade r hr) hu
    exact ⟨visits, hlist ▸ hperm, hth⟩
  cases hid : isBlankId lookup id with
  | true =>
    unfold seek at h
    rw [if_pos hid] at h
    obtain ⟨rfl, hlog⟩ := plays_ret_iff.mp h
    obtain rfl : log = [] := congrArg Prod.snd hlog
    exact ⟨List.nil_prefix, by simp, hthorough, by simp⟩
  | false =>
    obtain ⟨before, last, rfl, hdec⟩ := decides_of_seek hid h
    refine ⟨hdec.rounds, ?_, hthorough, ?_⟩
    · intro f hf
      have hlast : last.outcome = .found f :=
        Round.conclude_eq_ok_iff.mp (hdec.result.symm.trans hf)
      obtain ⟨e, he, hfound⟩ := foundOn_of_made (hmade last (by simp)) hlast
      have hmem : e ∈ endpoints := hperm.mem_iff.mp he
      exact ⟨last, by simp, hlast, e, hmem, hendpoint e hmem, hfound⟩
    · intro _ hres
      have hlast : Round.Unmatched last := by
        intro f hf
        exact hres f (hdec.result.trans (Round.conclude_eq_ok_iff.mpr hf))
      refine ⟨hdec.complete hlast, ?_⟩
      intro r hr
      rcases List.mem_append.mp hr with hr | hr
      · exact hdec.unmatched r hr
      · rw [List.mem_singleton.mp hr]
        exact hlast

/-- The world in which the endpoint of one tenant is down. -/
def oneDown : Pool.interface.Handler Unit :=
  smallWorld (fun t s => (if t = "a" then .error (.connection "down") else .ok (), s)) ["worker-1"]

def twoEndpoints : List Endpoint := [endpointAt "a" "10.0.0.1", endpointAt "b" "10.0.0.2"]

/-- The pool of them. -/
def pair : Pool :=
  ⟨.ofList [("a", endpointAt "a" "10.0.0.1"), ("b", endpointAt "b" "10.0.0.2")], [], {}⟩

/-- The machine on the other endpoint. -/
def onOther : Found :=
  ⟨⟨"b", "10.0.0.2", ⟨"dc1", "DC1", ""⟩⟩, canonicalize "4210A1B2", "worker-1",
    ⟨"4210A1B2", "worker-1", [], 4, 8192, "", none⟩⟩

/-- The machine on one endpoint is found while the other is down; and a machine that is nowhere is
looked for by name and by address on both. -/
theorem found_or_searched_everywhere_pair :
    ∃ sessions : Dict Unit,
      create twoEndpoints (fun _ => .ok ()) [] {} = .ok (pair, sessions) ∧
      (∃ log, Plays (pair.rounds (.ofHandler oneDown)) (seek .name "worker-1") ((), [])
          (.ok onOther) ((), log) ∧
        ∃ r ∈ log, r.outcome = .found onOther ∧
          ∃ e ∈ twoEndpoints, pair.endpoint e.tenant = .ok e ∧ FoundOn e r onOther) ∧
      ∃ log, Plays (pair.rounds (.ofHandler oneDown)) (seek .name "worker-2") ((), [])
          (.error (.connection "down")) ((), log) ∧
        log.map Report.round = [⟨.name, "worker-2"⟩, ⟨.ip, "worker-2"⟩] ∧
        ∀ r ∈ log, ∃ visits : List Visit,
          (visits.map Visit.endpoint).Perm twoEndpoints ∧ Thorough pair visits r := by
  obtain ⟨sessions, hcreate⟩ : ∃ sessions : Dict Unit,
      create twoEndpoints (fun _ => .ok ()) [] {} = .ok (pair, sessions) := ⟨_, rfl⟩
  refine ⟨sessions, hcreate, ?_, ?_⟩
  · obtain ⟨log, h⟩ := plays_find pair oneDown .name "worker-1" ()
    exact ⟨log, h, (found_or_searched_everywhere hcreate h).2.1 onOther rfl⟩
  · obtain ⟨log, h⟩ := plays_find pair oneDown .name "worker-2" ()
    obtain ⟨-, -, hthorough, hall⟩ := found_or_searched_everywhere hcreate h
    obtain ⟨hrounds, hunmatched⟩ := hall rfl fun f => nofun
    exact ⟨log, h, hrounds, fun r hr => hthorough r hr (hunmatched r hr)⟩

end NodeAtlas.Pool
