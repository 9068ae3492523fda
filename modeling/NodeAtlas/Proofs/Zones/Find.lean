import NodeAtlas.Proofs.Machines.Find
import NodeAtlas.Proofs.Pool.Create
import NodeAtlas.Proofs.Zones.Rounds
import NodeAtlas.Proofs.Zones.Surveys

/-!
# Finding zones

A place that a round finds is that of a host with the wanted zone and region, which was listed in a
datacenter of a configured endpoint. A round that finds none has surveyed every endpoint and examined
every host that was listed, each once. Only failures of connecting, of scans and of listings show then: a
host whose tags cannot be read is passed over.
-/

namespace NodeAtlas

open Protocol Search Text

theorem ZoneRegion.isWanted_iff {zone region : String} {zr : ZoneRegion} :
    zr.isWanted zone region = true ↔
      (∃ z, zr.zone = some z ∧ sameIgnoringCase z zone = true) ∧
        ∃ g, zr.region = some g ∧ sameIgnoringCase g region = true := by
  simp [isWanted, Option.any_eq_true]

namespace Pool

variable {p : Pool} {w : World Pool.interface}

/-! ## The work on a host -/

/-- A host is a match if zone and region can be read and are the wanted ones, and else a miss. -/
theorem answer_of_examine {labels : Config.Labels} {zone region : String} {t : HostSite}
    {xs : List Pool.interface.Exchange} {res : Result (Option Place)}
    (h : (p.examine labels zone region t).Yields xs res) :
    ∃ answer, (p.zoneOfHost t.site.endpoint.tenant t.host.id labels).Yields xs answer ∧
      ((∃ zr, answer = .ok zr ∧ zr.isWanted zone region = true ∧ res = .ok (some t.site.place)) ∨
        (∀ zr, answer = .ok zr → zr.isWanted zone region = false) ∧ res = .ok none) := by
  rw [examine] at h
  obtain ⟨ys, answer, _, hanswer, hret, rfl⟩ := yields_bind_iff.mp h
  refine ⟨answer, ?_, ?_⟩
  · cases answer <;> obtain ⟨rfl, -⟩ := yields_pure_iff.mp hret <;> rwa [List.append_nil]
  · cases answer with
    | error err => exact .inr ⟨nofun, (yields_pure_iff.mp hret).2⟩
    | ok zr =>
      have hres := (yields_pure_iff.mp hret).2
      cases hwanted : zr.isWanted zone region with
      | true =>
        rw [hwanted, if_pos rfl] at hres
        exact .inl ⟨zr, rfl, hwanted, hres⟩
      | false =>
        rw [hwanted, if_neg Bool.false_ne_true] at hres
        exact .inr ⟨fun _ hzr => Except.ok.inj hzr ▸ hwanted, hres⟩

/-! ## Rounds with a match -/

/-- What is known about a place that a round has found on an endpoint. -/
structure ServedOn (p : Pool) (e : Endpoint) (r : ZoneRound.Report) (place : Place) : Prop where
  /-- The place names the tenant. -/
  tenant : place.tenant = e.tenant
  /-- It names the address of the endpoint. -/
  server : place.server = e.host
  /-- A scan of the endpoint in this round found the datacenter. -/
  scanned : ∃ calls s, (scan e).Yields calls s ∧ place.datacenter ∈ s.found ∧
    calls.map outward <:+: exchanges r.events
  /-- A host that was listed in the datacenter has the wanted zone and region, whatever the case of
  their letters. -/
  examined : ∃ hosts host zr xs,
    .asked (Listing.call e ⟨place.datacenter, .ok hosts⟩) ∈ r.events ∧ host ∈ hosts ∧
    (p.zoneOfHost e.tenant host.id r.round.labels).Yields xs (.ok zr) ∧
    (∀ y ∈ xs, .worked ⟨⟨e, place.datacenter⟩, host⟩ y ∈ r.events) ∧
    (∃ z, zr.zone = some z ∧ sameIgnoringCase z r.round.zone = true) ∧
    ∃ g, zr.region = some g ∧ sameIgnoringCase g r.round.region = true

/-- A match of a round is on one of the endpoints of the pool. -/
theorem servedOn_of_made {r : ZoneRound.Report} (hr : ZoneRound.Made p w r) {place : Place}
    (hplace : r.outcome = .found place) : ∃ e ∈ p.list, ServedOn p e r place := by
  obtain ⟨world, after, hends⟩ := hr
  obtain ⟨t, ht⟩ := verdict_eq_found_iff.mp ((eq_verdict_of_ends hends).symm.trans hplace)
  obtain ⟨hpush, hperformed⟩ := performed_of_match hends (List.mem_of_mem_head? ht)
  obtain ⟨xs, hxs, hworked, -⟩ := hperformed.worked_mem
  obtain ⟨ys, zs, hys, hasks⟩ := asks_of_ends workers_within_pos hends (push_mem_exchanges hpush)
  obtain ⟨he, ⟨calls, s, hcalls, hpart, hfound⟩, hosts, hhost, hlisted⟩ := surveyed_of_asks_push hasks
  obtain ⟨answer, hanswer, ⟨zr, rfl, hwanted, hres⟩ | ⟨-, hres⟩⟩ := answer_of_examine hxs
  · obtain rfl : place = t.site.place := Option.some.inj (Except.ok.inj hres)
    obtain ⟨hzone, hregion⟩ := ZoneRegion.isWanted_iff.mp hwanted
    have hlist : outward (Listing.call t.site.endpoint ⟨t.site.datacenter, .ok hosts⟩) ∈
        exchanges r.events := hys ▸ List.mem_append_left _ hlisted
    refine ⟨t.site.endpoint, he, rfl, rfl, ⟨calls, s, hcalls, hfound, ?_⟩,
      hosts, t.host, zr, xs, asked_mem hlist, hhost, hanswer, hworked, hzone, hregion⟩
    exact hys ▸ hpart.trans (List.prefix_append ys _).isInfix
  · cases hres

/-! ## Rounds without a match -/

theorem filterMap_wanted_survey (v : Survey) : v.exchanges.filterMap wanted? = v.hosts := by
  have hlisting : ∀ l : Listing, (l.exchanges v.endpoint).filterMap wanted? = l.hosts v.endpoint := by
    intro l
    simp only [Listing.exchanges, List.filterMap_cons, List.filterMap_append,
      filterMap_wanted_record, filterMap_wanted_push]
    rfl
  simp only [Survey.exchanges, Survey.hosts, Visit.opening, List.filterMap_append,
    List.filterMap_cons, List.filterMap_flatMap, filterMap_wanted_outward, filterMap_wanted_record,
    hlisting]
  rfl

theorem filterMap_recorded_survey (v : Survey) : v.exchanges.filterMap recorded? = v.failures := by
  have hlisting : ∀ l : Listing, (l.exchanges v.endpoint).filterMap recorded? = l.failures := by
    intro l
    simp only [Listing.exchanges, List.filterMap_cons, List.filterMap_append,
      filterMap_recorded_record, filterMap_recorded_push, List.append_nil]
    rfl
  simp only [Survey.exchanges, Survey.failures, Visit.opening, List.filterMap_append,
    List.filterMap_cons, List.filterMap_flatMap, filterMap_recorded_outward,
    filterMap_recorded_record, hlisting]
  rfl

/-- Nothing was left out in a round: all of these surveys were made, and every host that they listed was
examined, once for each time it was listed. -/
structure Combed (p : Pool) (surveys : List Survey) (r : ZoneRound.Report) : Prop where
  /-- The surveys are such as the pool makes. -/
  possible : ∀ v ∈ surveys, v.Possible p
  /-- They are all that the producer did. -/
  surveyed : exchanges r.events = surveys.flatMap Survey.exchanges
  /-- Every host was handed to a worker once for each time it was listed. -/
  taken : takes r.events = surveys.flatMap Survey.hosts
  /-- The work on each of them has ended. -/
  finished : (finishes r.events).Perm (surveys.flatMap Survey.hosts)
  /-- The work on each of them was a miss: its zone and region could not be read or are not the wanted
  ones. -/
  examined : ∀ t ∈ surveys.flatMap Survey.hosts, ∃ xs answer,
    (p.zoneOfHost t.site.endpoint.tenant t.host.id r.round.labels).Yields xs answer ∧
    (Event.taken t :: xs.map (Event.worked t) ++ [Event.missed t]).Sublist r.events ∧
    ∀ zr, answer = .ok zr → zr.isWanted r.round.zone r.round.region = false
  /-- Only connecting, scans and listings have failed. -/
  failed : failuresIn r.events = surveys.flatMap Survey.failures

def ZoneRound.Unmatched (r : ZoneRound.Report) : Prop := ∀ place, r.outcome ≠ .found place

theorem combed_of_made {r : ZoneRound.Report} (hr : ZoneRound.Made p w r)
    (hu : ZoneRound.Unmatched r) :
    ∃ surveys : List Survey, surveys.map Survey.endpoint = p.list ∧ Combed p surveys r := by
  obtain ⟨world, after, hends⟩ := hr
  have hex : Exhausts (p.produceHosts p.list)
      (p.examine r.round.labels r.round.zone r.round.region) r.events :=
    exhausts_of_ends workers_within_pos hends hu
  obtain ⟨surveys, hlist, hpossible, hsurveys⟩ := exists_surveys hex.complete hex.unhurried
  have hpushes : pushes r.events = surveys.flatMap Survey.hosts := by
    rw [pushes_eq, hsurveys, List.filterMap_flatMap]
    simp only [filterMap_wanted_survey]
  have hnever : ∀ t err, Event.failed t err ∉ r.events := by
    intro t err hmem
    have hperformed : Performed (p.examine r.round.labels r.round.zone r.round.region) r.events t
        (.error err) := performed_of_finished hends hmem
    obtain ⟨xs, hxs, -⟩ := hperformed
    obtain ⟨-, -, ⟨-, -, -, hres⟩ | ⟨-, hres⟩⟩ := answer_of_examine hxs <;> cases hres
  refine ⟨surveys, hlist, hpossible, hsurveys, hex.taken.trans hpushes, hpushes ▸ hex.finished, ?_, ?_⟩
  · intro t ht
    obtain ⟨res, hmiss, xs, hxs, hsub⟩ := hex.missed t (hpushes ▸ ht)
    obtain ⟨answer, hanswer, ⟨-, -, -, rfl⟩ | ⟨hunwanted, rfl⟩⟩ := answer_of_examine hxs
    · exact (hmiss _ rfl).elim
    · exact ⟨xs, answer, hanswer, hsub, hunwanted⟩
  · rw [failuresIn_eq hnever, hsurveys, List.filterMap_flatMap]
    simp only [filterMap_recorded_survey]

theorem conclude_of_unmatched_zone {r : ZoneRound.Report} (hr : ZoneRound.Made p w r)
    (hu : ZoneRound.Unmatched r) :
    r.round.conclude r.outcome = .error ((failuresIn r.events).getLast?.getD
      (.zoneRegionNotFound ("zone " ++ r.round.zone ++ " region " ++ r.round.region))) := by
  obtain ⟨world, after, hends⟩ := hr
  have hverdict := eq_verdict_of_ends hends
  have hex := exhausts_of_ends workers_within_pos hends hu
  rw [verdict, hex.unmatched] at hverdict
  cases hlast : (failuresIn r.events).getLast? <;>
    · rw [hlast] at hverdict
      rw [hverdict]
      rfl

/-! ## A whole search -/

/-- A place that a search for a zone finds is right, and a zone that it does not find was looked for
everywhere. One round is made. A match is on a configured endpoint, in a datacenter with a host of that
zone and region. Without a match every endpoint was surveyed and every listed host examined; the result is
the last failure of connecting, scans and listings, or that there is no such zone if nothing failed. -/
theorem zone_found_or_hosts_examined {σ : Type} {endpoints : List Endpoint}
    {factory : Endpoint → Result σ} {managers : List String} {discovery : Config.Discovery}
    {sessions : Dict σ} (hp : create endpoints factory managers discovery = .ok (p, sessions))
    {r : ZoneRound} (hr : r.isIncomplete = false) {world after : w.State} {res : Result Place}
    {log₀ log : List ZoneRound.Report}
    (h : Plays (p.zoneRounds w) (makeZoneRound r) (world, log₀) res (after, log)) :
    ∃ rep : ZoneRound.Report, log = log₀ ++ [rep] ∧ rep.round = r ∧
      (∀ place, res = .ok place →
        ∃ e ∈ endpoints, p.endpoint e.tenant = .ok e ∧ ServedOn p e rep place) ∧
      ((∀ place, res ≠ .ok place) →
        ∃ surveys : List Survey, (surveys.map Survey.endpoint).Perm endpoints ∧
          Combed p surveys rep ∧
          res = .error ((surveys.flatMap Survey.failures).getLast?.getD
            (.zoneRegionNotFound ("zone " ++ r.zone ++ " region " ++ r.region)))) := by
  obtain ⟨hperm, hendpoint⟩ := perm_list_of_create hp
  obtain ⟨rep, hlog, rfl, hmade, hres⟩ := made_of_makeZoneRound hr h
  refine ⟨rep, hlog, rfl, ?_, ?_⟩
  · intro place hplace
    have hfound := ZoneRound.conclude_eq_ok_iff.mp (hres.symm.trans hplace)
    obtain ⟨e, he, hserved⟩ := servedOn_of_made hmade hfound
    have hmem : e ∈ endpoints := hperm.mem_iff.mp he
    exact ⟨e, hmem, hendpoint e hmem, hserved⟩
  · intro hnone
    have hu : ZoneRound.Unmatched rep := fun place hplace =>
      hnone place (hres.trans (ZoneRound.conclude_eq_ok_iff.mpr hplace))
    obtain ⟨surveys, hlist, hcombed⟩ := combed_of_made hmade hu
    refine ⟨surveys, hlist ▸ hperm, hcombed, ?_⟩
    rw [hres, conclude_of_unmatched_zone hmade hu, hcombed.failed]

/-- The world in which one endpoint is down and the other has two hosts, of which one can be asked for its
tags. -/
def taggedHosts : Pool.interface.Handler Unit
  | .session _ (.listHosts _), s => (.ok [⟨"h1", "host-1", "dc1", ""⟩, ⟨"h2", "host-2", "dc1", ""⟩], s)
  | .session _ (.hostTags host), s =>
    (if host = "h2" then .ok [⟨"Zone-1", "k8s-zone"⟩, ⟨"Region-1", "k8s-region"⟩]
      else .error (.zoneRegionNotFound ("host " ++ host)), s)
  | c, s => oneDown c s

/-- A zone that the second host has is found in its datacenter, though the tags of the first one cannot be
read. For another zone all hosts are examined, and the endpoint that is down is told. -/
theorem zone_found_or_hosts_examined_pair :
    ∃ sessions : Dict Unit,
      create twoEndpoints (fun _ => .ok ()) [] {} = .ok (pair, sessions) ∧
      (∃ log, Plays (pair.zoneRounds (.ofHandler taggedHosts))
          (makeZoneRound ⟨⟨"k8s-zone", "k8s-region"⟩, "zone-1", "region-1"⟩) ((), [])
          (.ok ⟨"b", "10.0.0.2", ⟨"dc1", "DC1", ""⟩⟩) ((), log) ∧
        ∃ rep ∈ log, ∃ e ∈ twoEndpoints, ServedOn pair e rep ⟨"b", "10.0.0.2", ⟨"dc1", "DC1", ""⟩⟩) ∧
      ∃ log, Plays (pair.zoneRounds (.ofHandler taggedHosts))
          (makeZoneRound ⟨⟨"k8s-zone", "k8s-region"⟩, "zone-2", "region-1"⟩) ((), [])
          (.error (.connection "down")) ((), log) ∧
        ∃ rep ∈ log, ∃ surveys : List Survey,
          (surveys.map Survey.endpoint).Perm twoEndpoints ∧ Combed pair surveys rep := by
  obtain ⟨sessions, hcreate⟩ : ∃ sessions : Dict Unit,
      create twoEndpoints (fun _ => .ok ()) [] {} = .ok (pair, sessions) := ⟨_, rfl⟩
  refine ⟨sessions, hcreate, ?_, ?_⟩
  · obtain ⟨log, h⟩ := plays_handleZone pair taggedHosts
      (makeZoneRound ⟨⟨"k8s-zone", "k8s-region"⟩, "zone-1", "region-1"⟩) () []
    obtain ⟨rep, rfl, -, hfound, -⟩ := zone_found_or_hosts_examined hcreate rfl h
    obtain ⟨e, he, -, hserved⟩ := hfound ⟨"b", "10.0.0.2", ⟨"dc1", "DC1", ""⟩⟩ rfl
    exact ⟨_, h, rep, by simp, e, he, hserved⟩
  · obtain ⟨log, h⟩ := plays_handleZone pair taggedHosts
      (makeZoneRound ⟨⟨"k8s-zone", "k8s-region"⟩, "zone-2", "region-1"⟩) () []
    obtain ⟨rep, rfl, -, -, hmissed⟩ := zone_found_or_hosts_examined hcreate rfl h
    obtain ⟨surveys, hperm, hcombed, -⟩ := hmissed fun place => nofun
    exact ⟨_, h, rep, by simp, surveys, hperm, hcombed⟩

end Pool

end NodeAtlas
