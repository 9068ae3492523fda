import NodeAtlas.Proofs.Machines.Find
import NodeAtlas.Proofs.Zones.Find

/-!
# Allow-lists of datacenters

An endpoint may name the datacenters that count. Scans keep to these names, and with them the searches
for machines, the listing of places and the rounds of zone searches. The zone of a single endpoint with a
single datacenter is found without a scan, and there the names do not count.
-/

namespace NodeAtlas.Pool

open Protocol Search

variable {p : Pool} {w : World Pool.interface} {e : Endpoint}

/-- The names of an endpoint let a datacenter through. -/
def Allows (e : Endpoint) (d : Datacenter) : Prop := e.datacenters = [] ∨ d.name ∈ e.datacenters

/-- The place is a datacenter of the endpoint that its names let through. -/
structure Admitted (e : Endpoint) (place : Place) : Prop where
  tenant : place.tenant = e.tenant
  server : place.server = e.host
  allowed : Allows e place.datacenter

/-- A datacenter that is asked for by name has that name. -/
def ByName (y : Pool.interface.Exchange) : Prop :=
  ∀ tenant name d, y = ⟨.session tenant (.getDatacenter name), .ok d⟩ → d.name = name

/-- Sessions answer a name only with a datacenter of that name. -/
def AnswersByName (w : World Pool.interface) : Prop :=
  ∀ s c r s', w.answers s c r s' → ByName ⟨c, r⟩

/-! ## Scans -/

theorem name_mem_of_lookupAll {names : List String} {s s' : Scan} {xs : List Pool.interface.Exchange}
    (h : (lookupAll e s names).Yields xs s') (hxs : ∀ y ∈ xs, ByName y) :
    ∀ d ∈ s'.found, d ∈ s.found ∨ d.name ∈ names := by
  induction names generalizing s xs with
  | nil =>
    obtain ⟨-, rfl⟩ := yields_pure_iff.mp h
    exact fun d hd => .inl hd
  | cons name names ih =>
    rw [lookupAll] at h
    obtain ⟨ys, answer, zs, hget, h₁, rfl⟩ := yields_bind_iff.mp h
    obtain rfl := yields_ask_iff.mp hget
    have hzs : ∀ y ∈ zs, ByName y := fun y hy => hxs y (List.mem_append_right _ hy)
    intro d hd
    cases answer with
    | error err =>
      rcases ih h₁ hzs d hd with hbefore | hname
      · exact .inl hbefore
      · exact .inr (List.mem_cons_of_mem _ hname)
    | ok d' =>
      rcases ih h₁ hzs d hd with hbefore | hname
      · rcases List.mem_append.mp hbefore with hbefore | hnew
        · exact .inl hbefore
        · obtain rfl := List.mem_singleton.mp hnew
          have hd' : d.name = name := hxs _ List.mem_cons_self e.tenant name d rfl
          exact .inr (hd' ▸ List.mem_cons_self)
      · exact .inr (List.mem_cons_of_mem _ hname)

theorem allows_of_scan {s : Scan} {xs : List Pool.interface.Exchange} (h : (scan e).Yields xs s)
    (hxs : ∀ y ∈ xs, ByName y) : ∀ d ∈ s.found, Allows e d := by
  intro d hd
  unfold scan at h
  split at h
  · rename_i hempty
    exact .inl (List.isEmpty_iff.mp hempty)
  · rcases name_mem_of_lookupAll h hxs d hd with hnone | hname
    · cases hnone
    · exact .inr hname

/-- A scan of a search keeps to the names. -/
theorem allows_of_ends {T R : Type} {x : Search Pool.interface T R} {world after : w.State}
    {es : List (Event Pool.interface T R)} {o : Outcome R} (hw : AnswersByName w)
    (h : Ends x w world es o after) {d : Datacenter}
    (hd : ∃ calls s, (scan e).Yields calls s ∧ d ∈ s.found ∧
      calls.map outward <:+: exchanges es) : Allows e d := by
  obtain ⟨calls, s, hscan, hfound, hpart⟩ := hd
  refine allows_of_scan hscan (fun y hy => ?_) d hfound
  have hasked : .asked y ∈ es := asked_mem (hpart.subset (List.mem_map_of_mem hy))
  obtain ⟨a, b, hanswer⟩ := answers_of_ends h (.inl hasked)
  exact hw a y.1 y.2 b hanswer

/-! ## Places -/

theorem admitted_of_placesOf {es : List Endpoint} {xs : List Pool.interface.Exchange}
    {places : List Place} (h : (p.placesOf es).Yields xs places) (hxs : ∀ y ∈ xs, ByName y) :
    ∀ place ∈ places, ∃ e ∈ es, Admitted e place := by
  induction es generalizing xs places with
  | nil =>
    obtain ⟨-, rfl⟩ := yields_pure_iff.mp h
    simp
  | cons e es ih =>
    have hlater : ∀ {zs rest}, (p.placesOf es).Yields zs rest → (∀ y ∈ zs, ByName y) →
        ∀ place ∈ rest, ∃ e' ∈ e :: es, Admitted e' place := by
      intro zs rest hrest hzs place hplace
      obtain ⟨e', he', hadmitted⟩ := ih hrest hzs place hplace
      exact ⟨e', List.mem_cons_of_mem _ he', hadmitted⟩
    rw [placesOf] at h
    obtain ⟨ys, reached, zs, -, h₁, rfl⟩ := yields_bind_iff.mp h
    have hzs : ∀ y ∈ zs, ByName y := fun y hy => hxs y (List.mem_append_right _ hy)
    cases reached with
    | error err => exact hlater h₁ hzs
    | ok _ =>
      obtain ⟨calls, s, zs', hscan, h₂, rfl⟩ := yields_bind_iff.mp h₁
      obtain ⟨zs'', rest, _, hrest, hret, rfl⟩ := yields_bind_iff.mp h₂
      obtain ⟨-, rfl⟩ := yields_pure_iff.mp hret
      intro place hplace
      rcases List.mem_append.mp hplace with hhere | hthere
      · obtain ⟨d, hd, rfl⟩ := List.mem_map.mp hhere
        have hallows := allows_of_scan hscan (fun y hy => hzs y (List.mem_append_left _ hy)) d hd
        exact ⟨e, List.mem_cons_self, rfl, rfl, hallows⟩
      · exact hlater hrest (fun y hy => hzs y (by simp [hy])) place hthere

theorem byName_of_plays {α : Type} {q : Protocol Pool.interface α} {s s' : w.State} {a : α}
    (hw : AnswersByName w) (h : Plays w q s a s') : ∃ xs, q.Yields xs a ∧ ∀ y ∈ xs, ByName y := by
  obtain ⟨xs, hyields, hadmits⟩ := plays_iff_exists_solo.mp h
  refine ⟨xs, hyields, fun y hy => ?_⟩
  obtain ⟨a, b, hanswer⟩ := hadmits.answers y hy
  exact hw a y.1 y.2 b hanswer

/-! ## A single datacenter -/

theorem plays_onSession_iff {c : Session.Call} {r : Session.Reply c} {s s' : w.State} :
    Plays w (onSession e c) s r s' ↔ w.answers s (.session e.tenant c) r s' := by
  constructor
  · intro h
    obtain ⟨r', t, hanswer, hret⟩ := plays_call_iff.mp h
    obtain ⟨rfl, rfl⟩ := plays_ret_iff.mp hret
    exact hanswer
  · exact fun h => .call h (.ret _ _)

/-- The only place of an endpoint is its only datacenter, whatever names count. -/
theorem plays_onlyPlace_iff {s s' : w.State} {place : Place} :
    Plays w (p.onlyPlace e) s (.ok (some place)) s' ↔
      place.tenant = e.tenant ∧ place.server = e.host ∧
        ∃ t, Plays w (p.connectWithRetry e) s (.ok ()) t ∧
          w.answers t (.session e.tenant .listDatacenters) (.ok [place.datacenter]) s' := by
  unfold onlyPlace
  constructor
  · intro h
    obtain ⟨reached, t, hconnect, h₁⟩ := plays_bind_iff.mp h
    cases reached with
    | error err => exact nomatch (plays_ret_iff.mp h₁).1
    | ok _ =>
      obtain ⟨listed, t', hlist, h₂⟩ := plays_bind_iff.mp h₁
      have hanswer := plays_onSession_iff.mp hlist
      rcases listed with err | _ | ⟨d, _ | ⟨d', ds⟩⟩
      · exact nomatch (plays_ret_iff.mp h₂).1
      · exact nomatch (plays_ret_iff.mp h₂).1
      · obtain ⟨hplace, rfl⟩ := plays_ret_iff.mp h₂
        cases hplace
        exact ⟨rfl, rfl, t, hconnect, hanswer⟩
      · exact nomatch (plays_ret_iff.mp h₂).1
  · obtain ⟨tenant, server, d⟩ := place
    rintro ⟨rfl, rfl, t, hconnect, hanswer⟩
    refine plays_bind_iff.mpr ⟨.ok (), t, hconnect, ?_⟩
    exact plays_bind_iff.mpr ⟨.ok [d], s', plays_onSession_iff.mpr hanswer, .ret _ _⟩

/-! ## All operations -/

section Operations

variable {world after : w.State}

theorem admitted_of_seek (hw : AnswersByName w) {lookup : Lookup} {id : String} {f : Found}
    {log : List Round.Report}
    (h : Plays (p.rounds w) (seek lookup id) (world, []) (.ok f) (after, log)) :
    ∃ e ∈ p.list, Admitted e f.place := by
  have hmade : ∀ r ∈ log, Round.Made p w r := made_of_plays h (by simp)
  cases hid : isBlankId lookup id with
  | true =>
    unfold seek at h
    rw [if_pos hid] at h
    exact nomatch (plays_ret_iff.mp h).1
  | false =>
    obtain ⟨before, last, rfl, hdec⟩ := decides_of_seek hid h
    have hlast := hmade last (by simp)
    have hfound := Round.conclude_eq_ok_iff.mp hdec.result.symm
    obtain ⟨e, he, hon⟩ := foundOn_of_made hlast hfound
    obtain ⟨_, _, hends⟩ := hlast
    exact ⟨e, he, hon.tenant, hon.server, allows_of_ends hw hends hon.scanned⟩

theorem admitted_of_places (hw : AnswersByName w) {places : List Place}
    (h : Plays w p.places world places after) :
    ∀ place ∈ places, ∃ e ∈ p.list, Admitted e place := by
  obtain ⟨xs, hyields, hxs⟩ := byName_of_plays hw h
  unfold Pool.places at hyields
  obtain ⟨ys, unsorted, zs, hplaces, hret, rfl⟩ := yields_bind_iff.mp hyields
  obtain ⟨-, rfl⟩ := yields_pure_iff.mp hret
  intro place hplace
  exact admitted_of_placesOf hplaces (fun y hy => hxs y (List.mem_append_left _ hy)) place
    (List.mem_mergeSort.mp hplace)

/-- Where a zone search makes a round, the names count. -/
theorem admitted_of_seekZone (hw : AnswersByName w) {r : ZoneRound} {place : Place}
    {log : List ZoneRound.Report} (hlog : log ≠ [])
    (h : Plays (p.zoneRounds w) (p.seekZone r) (world, []) (.ok place) (after, log)) :
    ∃ e ∈ p.list, Admitted e place := by
  rcases cases_of_seekZone h with ⟨-, -, hnone, -⟩ | ⟨rep, -, hmade, hfound⟩
  · exact (hlog hnone).elim
  · obtain ⟨e, he, hon⟩ := servedOn_of_made hmade hfound
    obtain ⟨_, _, hends⟩ := hmade
    exact ⟨e, he, hon.tenant, hon.server, allows_of_ends hw hends hon.scanned⟩

/-- Whatever is found or listed is a datacenter that the names of its endpoint let through, unless a zone
is found without a round. That happens exactly if there is one endpoint, it can be connected and it lists
one datacenter; then this is the place, whatever names the endpoint has. -/
theorem admitted_unless_sole {σ : Type} {endpoints : List Endpoint} {factory : Endpoint → Result σ}
    {managers : List String} {discovery : Config.Discovery} {sessions : Dict σ}
    (hp : create endpoints factory managers discovery = .ok (p, sessions)) (hw : AnswersByName w) :
    (∀ lookup id world f after log,
      Plays (p.rounds w) (seek lookup id) (world, []) (.ok f) (after, log) →
      ∃ e ∈ endpoints, Admitted e f.place) ∧
    (∀ world places after, Plays w p.places world places after →
      ∀ place ∈ places, ∃ e ∈ endpoints, Admitted e place) ∧
    ∀ r world place after,
      (∀ log, log ≠ [] →
        Plays (p.zoneRounds w) (p.seekZone r) (world, []) (.ok place) (after, log) →
        ∃ e ∈ endpoints, Admitted e place) ∧
      (Plays (p.zoneRounds w) (p.seekZone r) (world, []) (.ok place) (after, []) ↔
        ∃ e, endpoints = [e] ∧ place.tenant = e.tenant ∧ place.server = e.host ∧
          ∃ t, Plays w (p.connectWithRetry e) world (.ok ()) t ∧
            w.answers t (.session e.tenant .listDatacenters) (.ok [place.datacenter]) after) := by
  obtain ⟨hperm, -⟩ := perm_list_of_create hp
  -- The endpoints of the pool are the given ones.
  have hgiven : ∀ {place : Place}, (∃ e ∈ p.list, Admitted e place) →
      ∃ e ∈ endpoints, Admitted e place := by
    rintro place ⟨e, he, hadmitted⟩
    exact ⟨e, hperm.mem_iff.mp he, hadmitted⟩
  refine ⟨?_, ?_, fun r world place after => ⟨?_, ?_⟩⟩
  · intro lookup id world f after log h
    exact hgiven (admitted_of_seek hw h)
  · intro world places after h place hplace
    exact hgiven (admitted_of_places hw h place hplace)
  · intro log hlog h
    exact hgiven (admitted_of_seekZone hw hlog h)
  · simp only [plays_seekZone_without_round_iff, plays_onlyPlace_iff]
    constructor
    · rintro ⟨e, hlist, honly⟩
      rw [hlist] at hperm
      exact ⟨e, List.perm_singleton.mp hperm.symm, honly⟩
    · rintro ⟨e, rfl, honly⟩
      exact ⟨e, List.perm_singleton.mp hperm, honly⟩

end Operations

/-! ## An endpoint with one datacenter and another name -/

/-- A world that knows a datacenter of every name, but lists only one. -/
def knowsAll : Pool.interface.Handler Unit
  | .session _ (.getDatacenter name), s => (.ok ⟨"dc", name, ""⟩, s)
  | c, s => smallWorld (fun _ s => (.ok (), s)) ["worker-1"] c s

/-- An endpoint on which only a datacenter counts that is not listed. -/
def choosy : Endpoint := { endpointAt "a" "10.0.0.1" with datacenters := ["DC2"] }

def choosyPool : Pool := ⟨.ofList [("a", choosy)], [], {}⟩

theorem answersByName_knowsAll : AnswersByName (.ofHandler knowsAll) := by
  rintro s c r s' hanswer tenant name d heq
  cases heq
  obtain ⟨hd, -⟩ := Prod.mk.inj hanswer
  rw [Except.ok.inj hd]

/-- A machine is found, and places are listed, in the datacenter that counts. -/
theorem admitted_unless_sole_choosy :
    ∃ sessions : Dict Unit,
      create [choosy] (fun _ => .ok ()) [] {} = .ok (choosyPool, sessions) ∧
      AnswersByName (.ofHandler knowsAll) ∧
      (∃ f log, Plays (choosyPool.rounds (.ofHandler knowsAll)) (seek .name "worker-1") ((), [])
          (.ok f) ((), log) ∧ f.place.datacenter.name = "DC2" ∧
        ∃ e ∈ [choosy], Admitted e f.place) ∧
      ∃ places, Plays (.ofHandler knowsAll) choosyPool.places () places () ∧ places.length = 1 ∧
        ∀ place ∈ places, ∃ e ∈ [choosy], Admitted e place := by
  obtain ⟨sessions, hcreate⟩ : ∃ sessions : Dict Unit,
      create [choosy] (fun _ => .ok ()) [] {} = .ok (choosyPool, sessions) := ⟨_, rfl⟩
  obtain ⟨hfind, hplaces, -⟩ := admitted_unless_sole hcreate answersByName_knowsAll
  refine ⟨sessions, hcreate, answersByName_knowsAll, ?_, ?_⟩
  · obtain ⟨log, h⟩ := plays_find choosyPool knowsAll .name "worker-1" ()
    exact ⟨_, log, h, rfl, hfind _ _ _ _ _ _ h⟩
  · have h := plays_iff_exists_solo.mpr
      (exists_solo_run (w := .ofHandler knowsAll) (h := knowsAll) (fun _ _ => rfl) choosyPool.places ())
    exact ⟨_, h, by decide +kernel, hplaces _ _ _ h⟩

/-- For a zone the endpoint answers the datacenter that it lists, though that one does not count. -/
theorem sole_datacenter_not_admitted :
    AnswersByName (.ofHandler knowsAll) ∧ choosyPool.list = [choosy] ∧
      choosy.datacenters = ["DC2"] ∧
      ∃ log, Plays (choosyPool.zoneRounds (.ofHandler knowsAll))
          (choosyPool.seekZone ⟨⟨"k8s-zone", "k8s-region"⟩, "zone-1", "region-1"⟩) ((), [])
          (.ok ⟨"a", "10.0.0.1", ⟨"dc1", "DC1", ""⟩⟩) ((), log) ∧
        ∀ e ∈ choosyPool.list, ¬ Admitted e ⟨"a", "10.0.0.1", ⟨"dc1", "DC1", ""⟩⟩ := by
  refine ⟨answersByName_knowsAll, rfl, rfl, ?_⟩
  obtain ⟨log, h⟩ := plays_findZone choosyPool knowsAll
    ⟨⟨"k8s-zone", "k8s-region"⟩, "zone-1", "region-1"⟩ ()
  refine ⟨log, h, fun e he hadmitted => ?_⟩
  obtain rfl : e = choosy := List.mem_singleton.mp he
  rcases hadmitted.allowed with hnone | hname
  · cases hnone
  · exact absurd (List.mem_singleton.mp hname) (by decide)

end NodeAtlas.Pool
