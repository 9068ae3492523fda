import NodeAtlas.Atlas.Resolver
import NodeAtlas.Atlas.Trace
import NodeAtlas.Proofs.Index.Insert
import NodeAtlas.Protocol.Paths
import NodeAtlas.Trial

/-!
# Operations on a registry

Whatever an operation does, the index grows by the machines that its exchanges found and by nothing
else, and the nodes in the cluster stay under their own UUIDs. Beyond that, nodes join only by a
search for their machine and leave without any.
-/

namespace NodeAtlas

open Protocol

variable {a : Atlas} {r r' r'' : Registry} {xs ys : List Resolver.interface.Exchange}

theorem Resolver.yields_ask_iff {c : Resolver.Call} {reply : Resolver.Reply c} :
    (Resolver.ask c).Yields xs reply ↔ xs = [⟨c, reply⟩] := by
  unfold Resolver.ask
  rw [yields_call_iff]
  constructor
  · rintro ⟨r, ys, h, rfl⟩
    obtain ⟨rfl, rfl⟩ := yields_ret_iff.mp h
    rfl
  · rintro rfl
    exact ⟨reply, [], .ret reply, rfl⟩

/-! ## Growth -/

/-- The exchanges lead from one registry to another. -/
structure Grows (a : Atlas) (r : Registry) (xs : List Resolver.interface.Exchange) (r' : Registry) :
    Prop where
  /-- The index grows by the machines that were found. -/
  index : r'.index = r.index.insertAll (a.found xs)
  /-- The nodes in the cluster stay under their own UUIDs. -/
  keyed : r.Keyed → r'.Keyed

namespace Grows

theorem refl (a : Atlas) (r : Registry) : Grows a r [] r := ⟨rfl, id⟩

/-- Nothing is called, and the registry stays. -/
theorem of_pure (h : (pure r : Protocol Resolver.interface Registry).Yields xs r') :
    Grows a r xs r' := by
  obtain ⟨rfl, rfl⟩ := yields_pure_iff.mp h
  exact .refl a _

theorem trans (h : Grows a r xs r') (h' : Grows a r' ys r'') : Grows a r (xs ++ ys) r'' where
  index := by
    rw [h'.index, h.index, ← Index.insertAll_append, ← List.filterMap_append]
  keyed := h'.keyed ∘ h.keyed

end Grows

theorem Registry.keyed_empty : ({} : Registry).Keyed := fun _ _ h => by cases h

namespace Registry

theorem contains_of_contains_index (h : Grows a r xs r') {u : String}
    (hu : r.index.byUuid.contains u = true) : r'.index.byUuid.contains u = true := by
  rw [h.index, Index.contains_byUuid_insertAll_iff]
  exact .inr hu

/-! ## Nodes that leave -/

theorem index_unregister (r : Registry) (n : ClusterNode) : (r.unregister n).index = r.index := by
  unfold unregister
  split <;> rfl

theorem keyed_unregister (h : r.Keyed) (n : ClusterNode) : (r.unregister n).Keyed := by
  unfold unregister
  split
  · exact h
  · intro u m hm
    rw [Dict.find?_erase] at hm
    split at hm
    · cases hm
    · exact h u m hm

theorem grows_unregister (a : Atlas) (r : Registry) (n : ClusterNode) :
    Grows a r [] (r.unregister n) :=
  ⟨index_unregister r n, fun h => keyed_unregister h n⟩

theorem grows_foldl_unregister (a : Atlas) (r : Registry) (ns : List ClusterNode) :
    Grows a r [] (ns.foldl unregister r) := by
  induction ns generalizing r with
  | nil => exact .refl a r
  | cons n ns ih => exact (grows_unregister a r n).trans (ih (r.unregister n))

theorem grows_unregisterOthers (a : Atlas) (r : Registry) (ns : List ClusterNode) :
    Grows a r [] (r.unregisterOthers ns) := grows_foldl_unregister a r _

end Registry

namespace Atlas

/-! ## Machines that are looked for -/

theorem discover_of_yields {lookup : Lookup} {key : String} {res : Result NodeInfo}
    (h : (a.discover r lookup key).Yields xs (res, r')) :
    ∃ reply : Result Found, xs = [⟨.find lookup key, reply⟩] ∧ res = reply.map a.describe ∧
      r' = { r with index := r.index.insertAll (a.found xs) } := by
  obtain ⟨ys, reply, zs, hask, hret, rfl⟩ := yields_bind_iff.mp h
  obtain rfl := Resolver.yields_ask_iff.mp hask
  cases reply with
  | error err =>
    obtain ⟨rfl, hres⟩ := yields_pure_iff.mp hret
    cases hres
    exact ⟨.error err, rfl, rfl, rfl⟩
  | ok f =>
    obtain ⟨rfl, hres⟩ := yields_pure_iff.mp hret
    cases hres
    exact ⟨.ok f, rfl, rfl, rfl⟩

theorem grows_of_discover {lookup : Lookup} {key : String} {res : Result NodeInfo}
    (h : (a.discover r lookup key).Yields xs (res, r')) : Grows a r xs r' := by
  obtain ⟨reply, -, -, rfl⟩ := discover_of_yields h
  exact ⟨rfl, id⟩

/-! ## Nodes that join -/

/-- A node joins by one search for its machine, whatever comes of it. -/
theorem register_of_yields {n : ClusterNode} {u : String} (hu : n.uuid? = some u)
    (h : (a.register r n).Yields xs r') :
    ∃ reply : Result Found, xs = [⟨.find .uuid u, reply⟩] ∧
      r' = ⟨r.index.insertAll (a.found xs), r.registered.insert u n⟩ := by
  unfold register at h
  rw [hu] at h
  obtain ⟨ys, ⟨res, r₁⟩, zs, hdiscover, hret, rfl⟩ := yields_bind_iff.mp h
  obtain ⟨rfl, rfl⟩ := yields_pure_iff.mp hret
  obtain ⟨reply, rfl, -, rfl⟩ := discover_of_yields hdiscover
  exact ⟨reply, rfl, rfl⟩

theorem register_of_no_uuid {n : ClusterNode} (hn : n.uuid? = none) : a.register r n = pure r := by
  unfold register
  rw [hn]

theorem grows_of_register {n : ClusterNode} (h : (a.register r n).Yields xs r') :
    Grows a r xs r' := by
  cases hu : n.uuid? with
  | none =>
    rw [register_of_no_uuid hu] at h
    exact .of_pure h
  | some u =>
    obtain ⟨reply, -, rfl⟩ := register_of_yields hu h
    refine ⟨rfl, fun hkeyed v m hm => ?_⟩
    simp only at hm
    rw [Dict.find?_insert] at hm
    by_cases hv : v = u
    · rw [if_pos hv] at hm
      cases hm
      rw [hv, hu]
    · rw [if_neg hv] at hm
      exact hkeyed v m hm

theorem grows_of_registerNew {n : ClusterNode} (h : (a.registerNew r n).Yields xs r') :
    Grows a r xs r' := by
  unfold registerNew at h
  split at h
  · exact .of_pure h
  · exact grows_of_register h

theorem grows_of_registerAll {ns : List ClusterNode} (h : (a.registerAll r ns).Yields xs r') :
    Grows a r xs r' := by
  induction ns generalizing r xs with
  | nil => exact .of_pure h
  | cons n ns ih =>
    obtain ⟨ys, r₁, zs, hnew, hall, rfl⟩ := yields_bind_iff.mp h
    exact (grows_of_registerNew hnew).trans (ih hall)

theorem grows_of_sync {ns : List ClusterNode} (h : (a.sync r ns).Yields xs r') : Grows a r xs r' :=
  (Registry.grows_unregisterOthers a r ns).trans (grows_of_registerAll h)

/-! ## Metadata -/

theorem found_of_zoneOf {i : NodeInfo} {res : Result ZoneRegion}
    (h : (a.zoneOf i).Yields xs res) : a.found xs = [] := by
  unfold zoneOf at h
  split at h
  · obtain ⟨rfl, -⟩ := yields_pure_iff.mp h
    rfl
  · split at h
    · obtain ⟨rfl, -⟩ := yields_pure_iff.mp h
      rfl
    · rw [Resolver.yields_ask_iff.mp h]
      rfl

theorem grows_of_metadata {providerId : String} {res : Result Metadata}
    (h : (a.metadata r providerId).Yields xs (res, r')) : Grows a r xs r' := by
  unfold metadata at h
  split at h
  · obtain ⟨rfl, hres⟩ := yields_pure_iff.mp h
    cases hres
    exact .refl a _
  · obtain ⟨ys, ⟨info, r₁⟩, zs, hinfo, hrest, rfl⟩ := yields_bind_iff.mp h
    have hgrows : Grows a r ys r₁ := by
      unfold infoOf at hinfo
      split at hinfo
      · obtain ⟨rfl, hres⟩ := yields_pure_iff.mp hinfo
        cases hres
        exact .refl a _
      · exact grows_of_discover hinfo
    -- Asking for the zone leaves the registry as it is.
    have hsame : r' = r₁ ∧ a.found zs = [] := by
      cases info with
      | error err =>
        obtain ⟨rfl, hres⟩ := yields_pure_iff.mp hrest
        cases hres
        exact ⟨rfl, rfl⟩
      | ok i =>
        obtain ⟨vs, zone, ws, hzone, hret, rfl⟩ := yields_bind_iff.mp hrest
        rcases zone with err | zone
        all_goals
          obtain ⟨rfl, hres⟩ := yields_pure_iff.mp hret
          cases hres
          rw [List.append_nil]
          exact ⟨rfl, found_of_zoneOf hzone⟩
    obtain ⟨rfl, hzone⟩ := hsame
    exact hgrows.trans ⟨by rw [hzone]; rfl, id⟩

/-! ## Histories -/

theorem grows_of_perform {o : RegistryOperation} (h : (a.perform r o).Yields xs r') :
    Grows a r xs r' := by
  cases o with
  | register n => exact grows_of_register h
  | unregister n =>
    obtain ⟨rfl, rfl⟩ := yields_pure_iff.mp h
    exact Registry.grows_unregister a r n
  | sync nodes => exact grows_of_sync h
  | discover lookup id =>
    obtain ⟨⟨res, r₁⟩, hdiscover, rfl⟩ := yields_map_iff.mp h
    exact grows_of_discover hdiscover
  | metadata providerId =>
    obtain ⟨⟨res, r₁⟩, hmetadata, rfl⟩ := yields_map_iff.mp h
    exact grows_of_metadata hmetadata

theorem grows_of_performAll {os : List RegistryOperation} (h : (a.performAll r os).Yields xs r') :
    Grows a r xs r' := by
  induction os generalizing r xs with
  | nil => exact .of_pure h
  | cons o os ih =>
    obtain ⟨ys, r₁, zs, hperform, hall, rfl⟩ := yields_bind_iff.mp h
    exact (grows_of_perform hperform).trans (ih hall)

theorem grows_of_reachable (h : Reachable a r) : ∃ xs, Grows a {} xs r := by
  induction h with
  | empty => exact ⟨[], .refl a {}⟩
  | step _ o hs ih =>
    obtain ⟨xs, hxs⟩ := ih
    exact ⟨_, hxs.trans (grows_of_perform hs)⟩

theorem keyed_of_reachable (h : Reachable a r) : r.Keyed := by
  obtain ⟨xs, hxs⟩ := grows_of_reachable h
  exact hxs.keyed Registry.keyed_empty

theorem sound_of_reachable (h : Reachable a r) : r.index.Sound := by
  obtain ⟨xs, hxs⟩ := grows_of_reachable h
  rw [hxs.index]
  exact Index.sound_ofList _

theorem reachable_of_performAll (hr : Reachable a r) {os : List RegistryOperation}
    (h : (a.performAll r os).Yields xs r') : Reachable a r' := by
  induction os generalizing r xs with
  | nil =>
    obtain ⟨-, rfl⟩ := yields_pure_iff.mp h
    exact hr
  | cons o os ih =>
    obtain ⟨ys, r₁, zs, hperform, hall, -⟩ := yields_bind_iff.mp h
    exact ih (.step hr o hperform) hall

/-- What an atlas does in a world is one of the histories of its registry. -/
theorem reachable_of_run {σ : Type} {h : Pool.interface.Handler σ} {s : σ} (hr : Reachable a r)
    (o : RegistryOperation) : Reachable a (a.run h (a.perform r o) s).1 := by
  obtain ⟨xs, hxs⟩ := exists_yields_run (a.resolver h) (a.perform r o) s
  exact .step hr o hxs

end Atlas

/-! ## A small fleet -/

/-- A machine of the given UUID. All of them have the same name. -/
def worker (uuid : String) : Machine := ⟨uuid, "worker-1", [], 4, 8192, "", none⟩

/-- The machine of a UUID where it is found. -/
def workerFound (uuid : String) : Found :=
  ⟨⟨"a", "10.0.0.1", ⟨"dc1", "DC1", ""⟩⟩, uuid, "worker-1", worker uuid⟩

/-- An atlas of one endpoint, which is tried only once. -/
def fleet : Atlas :=
  ⟨⟨.ofList [("a", ⟨"a", "10.0.0.1", 443, .none, globalSecretRef, false, [], [.ipv4]⟩)], [],
    { connectionAttempts := 1 }⟩, ⟨none, none, "", ""⟩, {}⟩

/-- The endpoint in memory, with two machines of one name. -/
def fleetTrial (mishaps : List Session.Mishap) : Trial :=
  { backends := .ofList [("a", .memory "10.0.0.1")]
    endpoints := .ofList [("10.0.0.1",
      { setting :=
          { datacenters := [⟨"dc1", "DC1", ""⟩]
            machines := [("DC1", worker "4210a1b2"), ("DC1", worker "4210c3d4")]
            mishaps := .ofList [("connect", mishaps)] } })] }

end NodeAtlas
