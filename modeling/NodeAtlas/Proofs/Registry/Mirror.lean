import NodeAtlas.Atlas.Cluster
import NodeAtlas.Proofs.Registry.Members

/-!
# The registry as a mirror of the cluster

The registry knows nodes by their UUIDs only, and the cluster knows them by name. After each change the
UUIDs in the registry are those of the nodes in the cluster exactly as long as the changes are faithful.
A node that gets another UUID under its old name leaves its former one behind in the registry, until the
nodes are listed again.
-/

namespace NodeAtlas

open Protocol

/-! ## UUIDs of the cluster -/

namespace Cluster

variable {c : Cluster} {u : String}

theorem mem_uuids_iff : u ∈ c.uuids ↔ ∃ k n, c.find? k = some n ∧ n.uuid? = some u := by
  rw [uuids, ClusterNode.mem_uuids_iff]
  constructor
  · rintro ⟨n, hn, hu⟩
    obtain ⟨k, hk⟩ := Dict.mem_values_iff.mp hn
    exact ⟨k, n, hk, hu⟩
  · rintro ⟨k, n, hk, hu⟩
    exact ⟨n, Dict.mem_values_iff.mpr ⟨k, hk⟩, hu⟩

theorem mem_uuidsBeside_iff {name : String} :
    u ∈ c.uuidsBeside name ↔ ∃ k n, k ≠ name ∧ c.find? k = some n ∧ n.uuid? = some u := by
  rw [uuidsBeside, mem_uuids_iff]
  constructor
  · rintro ⟨k, n, hk, hu⟩
    rw [Dict.find?_erase] at hk
    split at hk
    · cases hk
    · rename_i hne
      exact ⟨k, n, hne, hk, hu⟩
  · rintro ⟨k, n, hne, hk, hu⟩
    exact ⟨k, n, by rw [Dict.find?_erase, if_neg hne, hk], hu⟩

/-- The UUIDs of a cluster are those of the node of a name and those of all other nodes. -/
theorem mem_uuids_iff_beside (name : String) :
    u ∈ c.uuids ↔ (∃ n, c.find? name = some n ∧ n.uuid? = some u) ∨ u ∈ c.uuidsBeside name := by
  rw [mem_uuids_iff, mem_uuidsBeside_iff]
  constructor
  · rintro ⟨k, n, hk, hu⟩
    by_cases hne : k = name
    · subst hne
      exact .inl ⟨n, hk, hu⟩
    · exact .inr ⟨k, n, hne, hk, hu⟩
  · rintro (⟨n, hn, hu⟩ | ⟨k, n, -, hk, hu⟩)
    · exact ⟨name, n, hn, hu⟩
    · exact ⟨k, n, hk, hu⟩

theorem mem_uuids_applied_iff {n : ClusterNode} :
    u ∈ (c.after (.applied n)).uuids ↔ n.uuid? = some u ∨ u ∈ c.uuidsBeside n.key := by
  rw [mem_uuids_iff_beside n.key, mem_uuidsBeside_iff, mem_uuidsBeside_iff]
  simp only [after, Dict.find?_insert_self, Option.some.injEq, exists_eq_left']
  refine or_congr_right ?_
  constructor
  · rintro ⟨k, m, hne, hk, hu⟩
    rw [Dict.find?_insert_of_ne _ _ hne] at hk
    exact ⟨k, m, hne, hk, hu⟩
  · rintro ⟨k, m, hne, hk, hu⟩
    exact ⟨k, m, hne, by rw [Dict.find?_insert_of_ne _ _ hne, hk], hu⟩

theorem uuids_restarted_subset (ns : List ClusterNode) :
    (c.after (.restarted ns)).uuids ⊆ ClusterNode.uuids ns := by
  intro u hu
  obtain ⟨k, n, hk, hn⟩ := mem_uuids_iff.mp hu
  obtain ⟨m, hm, hpair⟩ := List.mem_map.mp (Dict.mem_of_find?_ofList hk)
  obtain ⟨-, rfl⟩ := Prod.mk.inj hpair
  exact ClusterNode.mem_uuids_iff.mpr ⟨m, hm, hn⟩

/-! ## Changes -/

/-- A faithful change does the same to the UUIDs of the cluster as to those of the registry, and no
other change does. -/
theorem after_uuids_eq_iff (c : Cluster) (e : ClusterEvent) :
    e.after c.uuids = (c.after e).uuids ↔ c.Faithful e := by
  cases e with
  | applied n =>
    have hafter (u : String) : u ∈ (ClusterEvent.applied n).after c.uuids ↔
        u ∈ c.uuids ∨ n.uuid? = some u := by
      rw [ClusterEvent.after, Finset.mem_union, Option.mem_toFinset, Option.mem_def]
    constructor
    · intro h m u hm hu
      have hin : u ∈ (ClusterEvent.applied n).after c.uuids :=
        (hafter u).mpr (.inl (mem_uuids_iff.mpr ⟨n.key, m, hm, hu⟩))
      rw [h] at hin
      exact mem_uuids_applied_iff.mp hin
    · intro h
      ext u
      rw [hafter, mem_uuids_applied_iff, mem_uuids_iff_beside n.key]
      constructor
      · rintro ((⟨m, hm, hu⟩ | hu) | hu)
        · exact h m u hm hu
        · exact .inr hu
        · exact .inl hu
      · rintro (hu | hu)
        · exact .inr hu
        · exact .inl (.inr hu)
  | deleted n =>
    have hafter (u : String) : u ∈ (ClusterEvent.deleted n).after c.uuids ↔
        u ∈ c.uuids ∧ n.uuid? ≠ some u := by
      rw [ClusterEvent.after, Finset.mem_sdiff, Option.mem_toFinset, Option.mem_def]
    have hbeside : (c.after (.deleted n)).uuids = c.uuidsBeside n.key := rfl
    rw [hbeside]
    constructor
    · intro h
      refine ⟨fun m u hm hu => ?_, fun u hu hin => ?_⟩
      · by_cases hsame : n.uuid? = some u
        · exact .inl hsame
        · right
          rw [← h]
          exact (hafter u).mpr ⟨mem_uuids_iff.mpr ⟨n.key, m, hm, hu⟩, hsame⟩
      · rw [← h] at hin
        exact ((hafter u).mp hin).2 hu
    · rintro ⟨hcovers, halone⟩
      ext u
      rw [hafter, mem_uuids_iff_beside n.key]
      constructor
      · rintro ⟨⟨m, hm, hu⟩ | hu, hother⟩
        · exact (hcovers m u hm hu).resolve_left hother
        · exact hu
      · intro hu
        exact ⟨.inr hu, fun hsame => halone u hsame hu⟩
  | restarted ns =>
    change ClusterNode.uuids ns = _ ↔ ∀ n ∈ ns, ∀ u, n.uuid? = some u → u ∈ uuids _
    constructor
    · intro h n hn u hu
      rw [← h]
      exact ClusterNode.mem_uuids_iff.mpr ⟨n, hn, hu⟩
    · intro h
      refine Finset.Subset.antisymm (fun u hu => ?_) (uuids_restarted_subset ns)
      obtain ⟨n, hn, hnu⟩ := ClusterNode.mem_uuids_iff.mp hu
      exact h n hn u hnu

/-- A listing in which the nodes have different names is faithful to every cluster. -/
theorem faithful_restarted (c : Cluster) {ns : List ClusterNode}
    (h : (ns.map ClusterNode.key).Nodup) : c.Faithful (.restarted ns) := by
  intro n hn u hu
  have hkeys : ((ns.map fun n => (n.key, n)).map (·.1)).Nodup := by
    rwa [List.map_map]
  have hmem : (n.key, n) ∈ ns.map fun n => (n.key, n) := List.mem_map.mpr ⟨n, hn, rfl⟩
  exact mem_uuids_iff.mpr ⟨n.key, n, Dict.find?_ofList_of_nodup hkeys hmem, hu⟩

/-- After each of the changes, the UUIDs are the same if all changes are faithful, and only then. -/
theorem foldl_after_eq_iff (c : Cluster) (es : List ClusterEvent) :
    (∀ fs gs, es = fs ++ gs →
        fs.foldl ClusterEvent.after c.uuids = (fs.foldl after c).uuids) ↔
      c.AllFaithful es := by
  induction es generalizing c with
  | nil =>
    refine ⟨fun _ => trivial, fun _ fs gs hsplit => ?_⟩
    obtain ⟨rfl, -⟩ := List.append_eq_nil_iff.mp hsplit.symm
    rfl
  | cons e es ih =>
    constructor
    · intro h
      have hfirst : e.after c.uuids = (c.after e).uuids := h [e] es rfl
      refine ⟨(after_uuids_eq_iff c e).mp hfirst, (ih (c.after e)).mp fun fs gs hsplit => ?_⟩
      have hrest := h (e :: fs) gs (by rw [hsplit, List.cons_append])
      rwa [List.foldl_cons, List.foldl_cons, hfirst] at hrest
    · rintro ⟨hfaithful, hall⟩ fs gs hsplit
      cases fs with
      | nil => rfl
      | cons f fs =>
        obtain ⟨rfl, hrest⟩ := List.cons.inj hsplit
        rw [List.foldl_cons, List.foldl_cons, (after_uuids_eq_iff c e).mpr hfaithful]
        exact (ih (c.after e)).mpr hall fs gs hrest

end Cluster

namespace Atlas

variable {a : Atlas} {r : Registry} {c : Cluster}

/-- From a registry whose UUIDs are those of a cluster, they are so after each of the changes if all
changes are faithful, and only then. A listing in which the nodes have different names makes them so
whatever was before. -/
theorem mirrors_iff_faithful (hr : Reachable a r) (hc : r.members = c.uuids)
    (es : List ClusterEvent) :
    ((∀ fs gs xs r', es = fs ++ gs → (a.applyAll r fs).Yields xs r' →
        r'.members = (fs.foldl Cluster.after c).uuids) ↔ c.AllFaithful es) ∧
    ∀ (s s' : Registry) (d : Cluster) (ns : List ClusterNode) (xs), Reachable a s →
      (ns.map ClusterNode.key).Nodup → (a.apply s (.restarted ns)).Yields xs s' →
      s'.members = (d.after (.restarted ns)).uuids := by
  have hmembers {fs xs r'} (h : (a.applyAll r fs).Yields xs r') :
      r'.members = fs.foldl ClusterEvent.after c.uuids := by
    rw [← hc]
    exact (follows_of_applyAll (keyed_of_reachable hr) h).members
  refine ⟨?_, ?_⟩
  · rw [← Cluster.foldl_after_eq_iff]
    constructor
    · intro h fs gs hsplit
      -- Some run goes through the first changes, whatever its searches come to.
      obtain ⟨xs, hxs⟩ := exists_yields_run (a.resolver Trial.handle) (a.applyAll r fs)
        (fleetTrial [])
      rw [← hmembers hxs]
      exact h fs gs xs _ hsplit hxs
    · intro h fs gs xs r' hsplit hrun
      rw [hmembers hrun]
      exact h fs gs hsplit
  · intro s s' d ns xs hs hnames hrun
    rw [members_of_apply (keyed_of_reachable hs) hrun]
    have hfaithful := Cluster.faithful_restarted d hnames
    exact (Cluster.after_uuids_eq_iff d _).mpr hfaithful

/-- Two nodes join, one of them is reported again in another spelling, and then it leaves. -/
def visit : List ClusterEvent :=
  [.applied ⟨some "node-a", some "4210A1B2"⟩, .applied ⟨some "node-b", some "4210C3D4"⟩,
    .applied ⟨some "node-a", some " 4210a1b2"⟩, .deleted ⟨some "node-a", some "4210A1B2"⟩]

/-- A node joins and is then reported with another UUID. -/
def renewal : List ClusterEvent :=
  [.applied ⟨some "node-a", some "4210A1B2"⟩, .applied ⟨some "node-a", some "4210C3D4"⟩]

/-- A node that comes and goes under one UUID leaves nothing behind, and what another one has left
behind goes with the next listing. -/
theorem mirrors_iff_faithful_visit :
    (∃ xs r', (fleet.applyAll {} visit).Yields xs r' ∧ r'.members = {"4210c3d4"}) ∧
    ∃ xs ys r' r'', (fleet.applyAll {} renewal).Yields xs r' ∧
      (fleet.apply r' (.restarted [⟨some "node-a", some "4210C3D4"⟩])).Yields ys r'' ∧
      r''.members = {"4210c3d4"} := by
  obtain ⟨hmirror, hlisting⟩ :=
    mirrors_iff_faithful (a := fleet) (r := {}) (c := ∅) .empty (by decide +kernel) visit
  have hfaithful : Cluster.AllFaithful ∅ visit := by
    refine ⟨?_, ?_, ?_, ?_, trivial⟩
    all_goals exact (Cluster.after_uuids_eq_iff _ _).mp (by decide +kernel)
  have hrun {α : Type} (p : Protocol Resolver.interface α) : ∃ xs b, p.Yields xs b := by
    obtain ⟨xs, hxs⟩ := exists_yields_run (fleet.resolver Trial.handle) p (fleetTrial [])
    exact ⟨xs, _, hxs⟩
  refine ⟨?_, ?_⟩
  · obtain ⟨xs, r', h⟩ := hrun (fleet.applyAll {} visit)
    refine ⟨xs, r', h, (hmirror.mpr hfaithful visit [] xs r' rfl h).trans ?_⟩
    decide +kernel
  · obtain ⟨xs, r', h⟩ := hrun (fleet.applyAll {} renewal)
    obtain ⟨ys, r'', h'⟩ := hrun (fleet.apply r' (.restarted [⟨some "node-a", some "4210C3D4"⟩]))
    have hreachable : Reachable fleet r' := reachable_of_applyAll .empty h
    refine ⟨xs, ys, r', r'', h, h', (hlisting r' r'' ∅ _ ys hreachable ?_ h').trans ?_⟩
    · decide +kernel
    · decide +kernel

/-- The former UUID stays in the registry although no node of the cluster has it, and what is known
about its machine is exported. -/
theorem exists_left_behind :
    ∃ xs r', (fleet.applyAll {} renewal).Yields xs r' ∧
      (renewal.foldl Cluster.after (∅ : Cluster)).uuids = {"4210c3d4"} ∧
      r'.members = {"4210a1b2", "4210c3d4"} ∧
      (r'.exportNodes "" "").map (List.map NodeRecord.uuid) = .ok ["4210a1b2", "4210c3d4"] := by
  obtain ⟨xs, hxs⟩ := exists_yields_run (fleet.resolver Trial.handle) (fleet.applyAll {} renewal)
    (fleetTrial [])
  refine ⟨xs, _, hxs, ?_, ?_, ?_⟩
  · decide +kernel
  · decide +kernel
  · decide +kernel

end Atlas

end NodeAtlas
