import NodeAtlas.Proofs.Registry.Identity
import NodeAtlas.Proofs.Registry.Operations

/-!
# Metadata out of the index

A machine is looked for at most once to tell the cluster about its node. From then on its entry in the
index is what every spelling of its UUID leads to, whatever else happens, until it is found again. Only
zone and region are asked for each time.
-/

namespace NodeAtlas

open Protocol

variable {a : Atlas} {r r' : Registry} {xs : List Resolver.interface.Exchange} {p : String} {id : NodeId}
  {i : NodeInfo} {res : Result Metadata}

namespace Resolver

/-- No machine is looked for. -/
def Searchless (xs : List interface.Exchange) : Prop :=
  ∀ lookup key, ∀ reply : Result Found, (⟨.find lookup key, reply⟩ : interface.Exchange) ∉ xs

/-- A search by UUID finds only a machine of that UUID. -/
def Truthful (xs : List interface.Exchange) : Prop :=
  ∀ u f, (⟨.find .uuid u, .ok f⟩ : interface.Exchange) ∈ xs → f.uuid = canonicalize u

end Resolver

open Resolver (Searchless Truthful)

/-- The metadata are those of a machine. -/
structure Metadata.Describes (m : Metadata) (id : NodeId) (i : NodeInfo) : Prop where
  providerId : m.providerId = id.providerId
  instanceType : m.instanceType = i.instanceType
  addresses : m.addresses = i.addresses

/-- A machine is described without a search, unless zone and region cannot be told. -/
def Served (id : NodeId) (i : NodeInfo) (xs : List Resolver.interface.Exchange)
    (res : Result Metadata) : Prop :=
  Searchless xs ∧ ((∃ m : Metadata, res = .ok m ∧ m.Describes id i) ∨
    ∃ tenant host err, xs = [⟨.zone tenant host, .error err⟩] ∧ res = .error err)

theorem Served.describes {m : Metadata} (h : Served id i xs (.ok m)) : m.Describes id i := by
  rcases h.2 with ⟨m', hm, hdescribes⟩ | ⟨tenant, host, err, -, herr⟩
  · cases hm
    exact hdescribes
  · cases herr

namespace Atlas

/-! ## One call -/

theorem zoneOf_cases {zone : Result ZoneRegion} (h : (a.zoneOf i).Yields xs zone) :
    xs = [] ∧ zone = .ok {} ∨ ∃ tenant host, xs = [⟨.zone tenant host, zone⟩] := by
  unfold zoneOf at h
  split at h
  · exact .inl (yields_pure_iff.mp h)
  · split at h
    · exact .inl (yields_pure_iff.mp h)
    · exact .inr ⟨_, _, Resolver.yields_ask_iff.mp h⟩

/-- What is left to do for a machine. -/
theorem served_of_zoneOf (id : NodeId) {zone : Result ZoneRegion} (h : (a.zoneOf i).Yields xs zone) :
    Served id i xs (zone.map fun z => ⟨id.providerId, i.instanceType, i.addresses, z⟩) := by
  rcases zoneOf_cases h with ⟨rfl, rfl⟩ | ⟨tenant, host, rfl⟩
  · exact ⟨nofun, .inl ⟨_, rfl, rfl, rfl, rfl⟩⟩
  · refine ⟨fun lookup key reply hmem => ?_, ?_⟩
    · cases List.mem_singleton.mp hmem
    · cases zone with
      | error err => exact .inr ⟨tenant, host, err, rfl, rfl⟩
      | ok z => exact .inl ⟨_, rfl, rfl, rfl, rfl⟩

theorem metadata_of_invalid {err : Error} (hid : NodeId.ofProviderId p = .error err)
    (h : (a.metadata r p).Yields xs (res, r')) : xs = [] ∧ res = .error err ∧ r' = r := by
  unfold metadata at h
  rw [hid] at h
  obtain ⟨rfl, heq⟩ := yields_pure_iff.mp h
  exact ⟨rfl, (Prod.mk.inj heq).1, (Prod.mk.inj heq).2⟩

/-- What is known about the machine comes first, and zone and region after it. -/
theorem metadata_of_yields (hid : NodeId.ofProviderId p = .ok id)
    (h : (a.metadata r p).Yields xs (res, r')) :
    ∃ ys info zs, (a.infoOf r id.uuid).Yields ys (info, r') ∧ xs = ys ++ zs ∧
      (∀ err, info = .error err → zs = [] ∧ res = .error err) ∧
      ∀ i, info = .ok i → Served id i zs res := by
  unfold metadata at h
  rw [hid] at h
  obtain ⟨ys, ⟨info, r₁⟩, zs, hinfo, hrest, rfl⟩ := yields_bind_iff.mp h
  cases info with
  | error err =>
    obtain ⟨rfl, heq⟩ := yields_pure_iff.mp hrest
    cases heq
    refine ⟨ys, _, [], hinfo, rfl, fun err' herr => ?_, nofun⟩
    cases herr
    exact ⟨rfl, rfl⟩
  | ok i =>
    obtain ⟨vs, zone, ws, hzone, hret, rfl⟩ := yields_bind_iff.mp hrest
    have hserved := served_of_zoneOf id hzone
    cases zone
    all_goals
      obtain ⟨rfl, heq⟩ := yields_pure_iff.mp hret
      cases heq
      refine ⟨ys, _, vs, hinfo, by rw [List.append_nil], nofun, fun j hj => ?_⟩
      cases hj
      exact hserved

/-- Nothing is done to the registry for a machine that is in the index. -/
theorem metadata_of_indexed (hid : NodeId.ofProviderId p = .ok id)
    (hi : r.index.byUuid.find? id.uuid = some i) (h : (a.metadata r p).Yields xs (res, r')) :
    r' = r ∧ Served id i xs res := by
  obtain ⟨ys, info, zs, hinfo, rfl, -, hserved⟩ := metadata_of_yields hid h
  unfold infoOf at hinfo
  rw [hi] at hinfo
  obtain ⟨rfl, heq⟩ := yields_pure_iff.mp hinfo
  cases heq
  exact ⟨rfl, hserved i rfl⟩

/-- A machine that is not in the index is looked for once. -/
theorem metadata_of_unindexed (hid : NodeId.ofProviderId p = .ok id)
    (hi : r.index.byUuid.find? id.uuid = none) (h : (a.metadata r p).Yields xs (res, r')) :
    ∃ (reply : Result Found) (zs : List Resolver.interface.Exchange),
      xs = ⟨.find .uuid id.uuid, reply⟩ :: zs ∧
      (∀ err, reply = .error err → zs = [] ∧ res = .error err ∧ r' = r) ∧
      ∀ f, reply = .ok f →
        Served id (a.describe f) zs res ∧ r' = { r with index := r.index.insert (a.describe f) } := by
  obtain ⟨ys, info, zs, hinfo, rfl, herror, hserved⟩ := metadata_of_yields hid h
  unfold infoOf at hinfo
  rw [hi] at hinfo
  obtain ⟨reply, rfl, rfl, rfl⟩ := discover_of_yields hinfo
  refine ⟨reply, zs, rfl, ?_, ?_⟩
  · rintro err rfl
    obtain ⟨rfl, rfl⟩ := herror err rfl
    exact ⟨rfl, rfl, rfl⟩
  · rintro f rfl
    exact ⟨hserved _ rfl, rfl⟩

theorem registered_of_metadata (h : (a.metadata r p).Yields xs (res, r')) :
    r'.registered = r.registered := by
  cases hid : NodeId.ofProviderId p with
  | error err =>
    obtain ⟨-, -, rfl⟩ := metadata_of_invalid hid h
    rfl
  | ok id =>
    cases hi : r.index.byUuid.find? id.uuid with
    | some i =>
      obtain ⟨rfl, -⟩ := metadata_of_indexed hid hi h
      rfl
    | none =>
      obtain ⟨reply, zs, -, herror, hok⟩ := metadata_of_unindexed hid hi h
      cases reply with
      | error err =>
        obtain ⟨-, -, rfl⟩ := herror err rfl
        rfl
      | ok f =>
        obtain ⟨-, rfl⟩ := hok f rfl
        rfl

/-- What is found for a provider id has the UUID in it. -/
theorem uuid_describe_of_truthful {f : Found} (hid : NodeId.ofProviderId p = .ok id)
    (htruthful : Truthful xs)
    (hmem : (⟨.find .uuid id.uuid, .ok f⟩ : Resolver.interface.Exchange) ∈ xs) :
    (a.describe f).uuid = id.uuid :=
  (htruthful id.uuid f hmem).trans (NodeId.of_ofProviderId hid).1

/-- What a call answers is what the index holds under the UUID. -/
theorem indexed_of_metadata {m : Metadata} (hid : NodeId.ofProviderId p = .ok id)
    (htruthful : Truthful xs) (h : (a.metadata r p).Yields xs (.ok m, r')) :
    ∃ i, r'.index.byUuid.find? id.uuid = some i ∧ m.Describes id i := by
  cases hi : r.index.byUuid.find? id.uuid with
  | some i =>
    obtain ⟨rfl, hserved⟩ := metadata_of_indexed hid hi h
    exact ⟨i, hi, hserved.describes⟩
  | none =>
    obtain ⟨reply, zs, rfl, herror, hok⟩ := metadata_of_unindexed hid hi h
    cases reply with
    | error err =>
      obtain ⟨-, hres, -⟩ := herror err rfl
      cases hres
    | ok f =>
      obtain ⟨hserved, rfl⟩ := hok f rfl
      have huuid : (a.describe f).uuid = id.uuid :=
        uuid_describe_of_truthful hid htruthful List.mem_cons_self
      refine ⟨a.describe f, ?_, hserved.describes⟩
      rw [Index.find?_byUuid_insert, if_pos huuid.symm]

/-! ## Many calls -/

/-- A machine stays in the index until one of its UUID is found. -/
theorem indexed_of_performAll {u : String} {os : List RegistryOperation}
    (h : (a.performAll r os).Yields xs r') (hxs : ∀ j ∈ a.found xs, j.uuid ≠ u) :
    r'.index.byUuid.find? u = r.index.byUuid.find? u := by
  have hnone : ((a.found xs).filter fun j => j.uuid = u) = [] :=
    List.filter_eq_nil_iff.mpr fun j hj => by simpa using hxs j hj
  rw [(grows_of_performAll h).index, Index.find?_byUuid_insertAll, hnone]
  rfl

/-- Metadata come out of the index. A call leaves the nodes in the cluster as they are, and the index too
if the provider id holds no UUID, if the machine of the UUID is in the index or if it cannot be found;
else exactly the machine is added that was found, whether or not zone and region can be told then. What a
call answers is what the index holds under the UUID, and its provider id leads to the UUID again. Until a
machine of the UUID is found once more, every later call for the UUID in any spelling answers the same
without a search, unless the look-up of zone and region fails that it makes itself. -/
theorem metadata_from_index (hr : Reachable a r) (h : (a.metadata r p).Yields xs (res, r'))
    (htruthful : Truthful xs) :
    r'.registered = r.registered ∧
    (∀ err, NodeId.ofProviderId p = .error err → xs = [] ∧ res = .error err ∧ r' = r) ∧
    ∀ id, NodeId.ofProviderId p = .ok id →
      (∀ i, r.index.byUuid.find? id.uuid = some i → r' = r ∧ Served id i xs res) ∧
      (r.index.byUuid.find? id.uuid = none →
        ∃ (reply : Result Found) (zs : List Resolver.interface.Exchange),
          xs = ⟨.find .uuid id.uuid, reply⟩ :: zs ∧
          (∀ err, reply = .error err → zs = [] ∧ res = .error err ∧ r' = r) ∧
          ∀ f, reply = .ok f → (a.describe f).uuid = id.uuid ∧
            r'.index = r.index.insert (a.describe f) ∧
            (∀ u, u ≠ id.uuid → r'.index.byUuid.find? u = r.index.byUuid.find? u) ∧
            Served id (a.describe f) zs res) ∧
      (∀ m, res = .ok m → NodeId.ofProviderId m.providerId = .ok id ∧
        ∃ i, r'.index.byUuid.find? id.uuid = some i ∧ m.Describes id i) ∧
      ∀ i, r'.index.byUuid.find? id.uuid = some i → i.uuid = id.uuid ∧
        ∀ os ys r₁, (a.performAll r' os).Yields ys r₁ → (∀ j ∈ a.found ys, j.uuid ≠ id.uuid) →
          ∀ q zs res' r₂, NodeId.ofProviderId q = .ok id → (a.metadata r₁ q).Yields zs (res', r₂) →
            r₂ = r₁ ∧ Served id i zs res' := by
  refine ⟨registered_of_metadata h, fun err hid => metadata_of_invalid hid h, fun id hid => ?_⟩
  refine ⟨fun i hi => metadata_of_indexed hid hi h, fun hi => ?_, ?_, ?_⟩
  · obtain ⟨reply, zs, rfl, herror, hok⟩ := metadata_of_unindexed hid hi h
    refine ⟨reply, zs, rfl, herror, ?_⟩
    rintro f rfl
    obtain ⟨hserved, rfl⟩ := hok f rfl
    have huuid : (a.describe f).uuid = id.uuid :=
      uuid_describe_of_truthful hid htruthful List.mem_cons_self
    refine ⟨huuid, rfl, fun u hu => ?_, hserved⟩
    rw [Index.find?_byUuid_insert, if_neg (huuid ▸ hu)]
  · rintro m rfl
    obtain ⟨i, hi, hdescribes⟩ := indexed_of_metadata hid htruthful h
    obtain ⟨hcanonical, hne⟩ := NodeId.of_ofProviderId hid
    exact ⟨hdescribes.providerId ▸ NodeId.ofProviderId_providerId hcanonical hne, i, hi, hdescribes⟩
  · intro i hi
    have hsound := sound_of_reachable (.step hr (.metadata p) (yields_map_iff.mpr ⟨_, h, rfl⟩))
    refine ⟨hsound.keyed _ i hi, ?_⟩
    intro os ys r₁ hys hnew q zs res' r₂ hq hzs
    exact metadata_of_indexed hq ((indexed_of_performAll hys hnew).trans hi) hzs

/-- Machines of the fleet have been found, and no node has joined. -/
def unclaimed (uuids : List String) : Registry :=
  { index := .ofList (uuids.map fun u => fleet.describe (workerFound u)) }

/-- Between two calls for one machine, in two spellings of its UUID, another machine of the same name is
found. -/
theorem metadata_from_index_namesakes :
    ∃ m : Metadata,
      (fleet.metadata {} "ics://4210A1B2").Yields
        [⟨.find .uuid "4210a1b2", .ok (workerFound "4210a1b2")⟩] (.ok m, unclaimed ["4210a1b2"]) ∧
      NodeId.ofProviderId m.providerId = .ok ⟨"4210a1b2"⟩ ∧
      ∀ zs res r,
        (fleet.metadata (unclaimed ["4210a1b2", "4210c3d4"]) " 4210A1b2\t").Yields zs (res, r) →
        r = unclaimed ["4210a1b2", "4210c3d4"] ∧
          Served ⟨"4210a1b2"⟩ (fleet.describe (workerFound "4210a1b2")) zs res := by
  have hid : NodeId.ofProviderId "ics://4210A1B2" = .ok ⟨"4210a1b2"⟩ := by decide +kernel
  have hspelled : NodeId.ofProviderId " 4210A1b2\t" = .ok ⟨"4210a1b2"⟩ := by decide +kernel
  have hcall : (fleet.metadata {} "ics://4210A1B2").Yields
      [⟨.find .uuid "4210a1b2", .ok (workerFound "4210a1b2")⟩]
      (.ok ⟨"ics://4210a1b2", "ics-vm.cpu-4.mem-8gb.os-unknown", [⟨.hostname, "worker-1"⟩], {}⟩,
        unclaimed ["4210a1b2"]) := .call _ (.ret _)
  have hbetween : (fleet.performAll (unclaimed ["4210a1b2"]) [.discover .uuid "4210C3D4"]).Yields
      [⟨.find .uuid "4210C3D4", .ok (workerFound "4210c3d4")⟩]
      (unclaimed ["4210a1b2", "4210c3d4"]) := .call _ (.ret _)
  have htruthful : Truthful [⟨.find .uuid "4210a1b2", .ok (workerFound "4210a1b2")⟩] := by
    intro u f hmem
    cases List.mem_singleton.mp hmem
    decide +kernel
  obtain ⟨-, -, hvalid⟩ := metadata_from_index .empty hcall htruthful
  obtain ⟨-, -, hanswer, hlater⟩ := hvalid ⟨"4210a1b2"⟩ hid
  refine ⟨_, hcall, (hanswer _ rfl).1, ?_⟩
  intro zs res r h
  exact (hlater _ (by decide +kernel)).2 _ _ _ hbetween (by decide +kernel) _ zs res r hspelled h

/-- The fleet with labels of zones and regions. -/
def labelledFleet : Atlas := { fleet with labels := ⟨"zone", "region"⟩ }

/-- The machine of a UUID on a host. -/
def hostedFound (uuid : String) : Found :=
  { workerFound uuid with machine := { worker uuid with hostId := some "host-1" } }

/-- A machine on a host has been found, and no node has joined. -/
def hosted : Registry := { index := .ofList [labelledFleet.describe (hostedFound "4210a1b2")] }

/-- A later call fails if it cannot tell zone and region, although the first one could. -/
theorem exists_unserved :
    ∃ (xs : List Resolver.interface.Exchange) (m : Metadata) (err : Error),
      Truthful xs ∧ (labelledFleet.metadata {} "ics://4210a1b2").Yields xs (.ok m, hosted) ∧
      (labelledFleet.metadata hosted "ics://4210a1b2").Yields [⟨.zone "a" "host-1", .error err⟩]
        (.error err, hosted) := by
  have hfirst : (labelledFleet.metadata {} "ics://4210a1b2").Yields
      [⟨.find .uuid "4210a1b2", .ok (hostedFound "4210a1b2")⟩,
        ⟨.zone "a" "host-1", .ok ⟨some "zone-1", some "region-1"⟩⟩]
      (.ok ⟨"ics://4210a1b2", "ics-vm.cpu-4.mem-8gb.os-unknown", [⟨.hostname, "worker-1"⟩],
        ⟨some "zone-1", some "region-1"⟩⟩, hosted) := .call _ (.call _ (.ret _))
  refine ⟨_, _, .connection "down", fun u f hmem => ?_, hfirst, .call _ (.ret _)⟩
  rcases List.mem_cons.mp hmem with heq | hmem
  · cases heq
    decide +kernel
  · cases List.mem_singleton.mp hmem

end Atlas

end NodeAtlas
