import NodeAtlas.Proofs.Registry.Operations

/-!
# The nodes in the cluster

The registry follows the cluster: the UUIDs of the nodes in it are what the changes make of them one
after another, whatever the searches for their machines come to. The index stays as it is when nodes
leave, and it never loses a machine.
-/

namespace NodeAtlas

open Protocol

variable {a : Atlas} {r r' : Registry} {xs : List Resolver.interface.Exchange}

theorem ClusterNode.mem_uuids_iff {ns : List ClusterNode} {u : String} :
    u ∈ ClusterNode.uuids ns ↔ ∃ n ∈ ns, n.uuid? = some u := by
  rw [uuids, List.mem_toFinset, List.mem_filterMap]

namespace Registry

theorem mem_members_iff {u : String} : u ∈ r.members ↔ r.registered.contains u = true := by
  rw [members, List.mem_toFinset, Dict.keys, Dict.contains, List.any_eq_true, List.mem_map]
  simp only [beq_iff_eq]

/-! ## Leaving -/

theorem members_unregister (r : Registry) (n : ClusterNode) :
    (r.unregister n).members = r.members \ n.uuid?.toFinset := by
  ext u
  rw [Finset.mem_sdiff, Option.mem_toFinset, Option.mem_def, mem_members_iff, mem_members_iff]
  unfold unregister
  cases n.uuid? with
  | none => simp
  | some v =>
    rw [Dict.contains_erase_iff, Option.some.injEq, and_comm, ne_comm]

theorem mem_members_foldl_unregister_iff {ns : List ClusterNode} {u : String} :
    u ∈ (ns.foldl unregister r).members ↔ u ∈ r.members ∧ u ∉ ClusterNode.uuids ns := by
  induction ns generalizing r with
  | nil => simp [ClusterNode.uuids]
  | cons n ns ih =>
    rw [List.foldl_cons, ih, members_unregister, Finset.mem_sdiff, and_assoc, Option.mem_toFinset,
      ClusterNode.mem_uuids_iff, ClusterNode.mem_uuids_iff]
    simp only [List.mem_cons, exists_eq_or_imp, not_or, Option.mem_def]

/-- As every node is kept under its own UUID, exactly the listed ones stay. -/
theorem members_unregisterOthers (h : r.Keyed) (ns : List ClusterNode) :
    (r.unregisterOthers ns).members = r.members ∩ ClusterNode.uuids ns := by
  ext u
  rw [unregisterOthers, mem_members_foldl_unregister_iff, Finset.mem_inter]
  refine and_congr_right fun hu => ?_
  rw [mem_members_iff, Dict.contains_eq] at hu
  obtain ⟨n, hn⟩ := Option.isSome_iff_exists.mp hu
  have hlisted : (ns.filterMap ClusterNode.uuid?).contains u = true ↔ u ∈ ClusterNode.uuids ns := by
    rw [List.contains_iff_mem, ClusterNode.uuids, List.mem_toFinset]
  rw [← not_iff_not, not_not, ClusterNode.mem_uuids_iff, ← hlisted]
  constructor
  · rintro ⟨m, hm, hmu⟩
    obtain ⟨⟨v, m'⟩, he, rfl⟩ := List.mem_map.mp hm
    obtain ⟨hmem, hstale⟩ := List.mem_filter.mp he
    have hv := h v m' (Dict.find?_eq_some_iff.mpr hmem)
    rw [hmu] at hv
    cases hv
    simpa using hstale
  · intro hstale
    refine ⟨n, List.mem_map.mpr ⟨(u, n), List.mem_filter.mpr ⟨?_, by simpa using hstale⟩, rfl⟩, ?_⟩
    · exact Dict.find?_eq_some_iff.mp hn
    · exact h u n hn

end Registry

/-! ## Joining -/

namespace Atlas

theorem members_of_register {n : ClusterNode} (h : (a.register r n).Yields xs r') :
    r'.members = r.members ∪ n.uuid?.toFinset := by
  cases hu : n.uuid? with
  | none =>
    rw [register_of_no_uuid hu] at h
    obtain ⟨-, rfl⟩ := yields_pure_iff.mp h
    simp
  | some u =>
    obtain ⟨reply, -, rfl⟩ := register_of_yields hu h
    ext v
    rw [Registry.mem_members_iff, Dict.contains_insert_iff, Finset.mem_union,
      Registry.mem_members_iff, Option.toFinset_some, Finset.mem_singleton, or_comm]

theorem members_of_registerNew {n : ClusterNode} (h : (a.registerNew r n).Yields xs r') :
    r'.members = r.members ∪ n.uuid?.toFinset := by
  unfold registerNew at h
  split at h
  · rename_i hholds
    obtain ⟨-, rfl⟩ := yields_pure_iff.mp h
    unfold Registry.holds at hholds
    cases hu : n.uuid? with
    | none => simp
    | some u =>
      rw [hu] at hholds
      have hu' := Registry.mem_members_iff.mpr hholds
      rw [Option.toFinset_some, Finset.union_eq_left.mpr (Finset.singleton_subset_iff.mpr hu')]
  · exact members_of_register h

theorem members_of_registerAll {ns : List ClusterNode} (h : (a.registerAll r ns).Yields xs r') :
    r'.members = r.members ∪ ClusterNode.uuids ns := by
  induction ns generalizing r xs with
  | nil =>
    obtain ⟨-, rfl⟩ := yields_pure_iff.mp h
    simp [ClusterNode.uuids]
  | cons n ns ih =>
    obtain ⟨ys, r₁, zs, hnew, hall, rfl⟩ := yields_bind_iff.mp h
    rw [ih hall, members_of_registerNew hnew, Finset.union_assoc]
    congr 1
    ext u
    simp only [Finset.mem_union, Option.mem_toFinset, Option.mem_def, ClusterNode.mem_uuids_iff,
      List.mem_cons, exists_eq_or_imp]

/-- A new listing replaces the nodes in the cluster. -/
theorem members_of_sync (hr : r.Keyed) {ns : List ClusterNode} (h : (a.sync r ns).Yields xs r') :
    r'.members = ClusterNode.uuids ns := by
  rw [members_of_registerAll h, Registry.members_unregisterOthers hr]
  exact Finset.union_eq_right.mpr Finset.inter_subset_right

/-! ## Changes -/

theorem members_of_apply (hr : r.Keyed) {e : ClusterEvent} (h : (a.apply r e).Yields xs r') :
    r'.members = e.after r.members := by
  cases e with
  | applied n => exact members_of_registerNew h
  | deleted n =>
    obtain ⟨-, rfl⟩ := yields_pure_iff.mp h
    exact Registry.members_unregister r n
  | restarted ns => exact members_of_sync hr h

theorem grows_of_apply {e : ClusterEvent} (h : (a.apply r e).Yields xs r') : Grows a r xs r' := by
  cases e with
  | applied n => exact grows_of_registerNew h
  | deleted n =>
    obtain ⟨rfl, rfl⟩ := yields_pure_iff.mp h
    exact Registry.grows_unregister a r n
  | restarted ns => exact grows_of_sync h

/-- A change is one of the operations, or nothing when the node is in the cluster already. -/
theorem reachable_of_apply (hr : Reachable a r) {e : ClusterEvent}
    (h : (a.apply r e).Yields xs r') : Reachable a r' := by
  cases e with
  | applied n =>
    change (a.registerNew r n).Yields xs r' at h
    unfold registerNew at h
    split at h
    · obtain ⟨-, rfl⟩ := yields_pure_iff.mp h
      exact hr
    · exact .step hr (.register n) h
  | deleted n => exact .step hr (.unregister n) h
  | restarted ns => exact .step hr (.sync ns) h

/-- What changes make of a registry. -/
structure Follows (r : Registry) (es : List ClusterEvent) (r' : Registry) : Prop where
  /-- The UUIDs in the cluster are those that the changes leave in it. -/
  members : r'.members = es.foldl ClusterEvent.after r.members
  /-- Every node is kept under its own UUID. -/
  keyed : r'.Keyed
  /-- The index loses no machine. -/
  index : ∀ u, r.index.byUuid.contains u = true → r'.index.byUuid.contains u = true

theorem reachable_of_applyAll (hr : Reachable a r) {es : List ClusterEvent}
    (h : (a.applyAll r es).Yields xs r') : Reachable a r' := by
  induction es generalizing r xs with
  | nil =>
    obtain ⟨-, rfl⟩ := yields_pure_iff.mp h
    exact hr
  | cons e es ih =>
    obtain ⟨ys, r₁, zs, happly, hall, rfl⟩ := yields_bind_iff.mp h
    exact ih (reachable_of_apply hr happly) hall

theorem follows_of_applyAll (hr : r.Keyed) {es : List ClusterEvent}
    (h : (a.applyAll r es).Yields xs r') : Follows r es r' := by
  induction es generalizing r xs with
  | nil =>
    obtain ⟨-, rfl⟩ := yields_pure_iff.mp h
    exact ⟨rfl, hr, fun u hu => hu⟩
  | cons e es ih =>
    obtain ⟨ys, r₁, zs, happly, hall, rfl⟩ := yields_bind_iff.mp h
    have hgrows := grows_of_apply happly
    obtain ⟨hmembers, hkeyed, hindex⟩ := ih (hgrows.keyed hr) hall
    refine ⟨?_, hkeyed, fun u hu => hindex u (Registry.contains_of_contains_index hgrows hu)⟩
    rw [hmembers, List.foldl_cons, members_of_apply hr happly]

/-! ## Nodes without a UUID -/

theorem registerNew_of_no_uuid {n : ClusterNode} (hn : n.uuid? = none) :
    a.registerNew r n = pure r := by
  unfold registerNew
  rw [register_of_no_uuid hn, ite_self]

theorem unregister_of_no_uuid {n : ClusterNode} (hn : n.uuid? = none) : r.unregister n = r := by
  unfold Registry.unregister
  rw [hn]

theorem registerAll_filter (ns : List ClusterNode) :
    a.registerAll r (ns.filter fun n => n.uuid?.isSome) = a.registerAll r ns := by
  induction ns generalizing r with
  | nil => rfl
  | cons n ns ih =>
    cases hn : n.uuid? with
    | none =>
      rw [List.filter_cons_of_neg (by simp [hn]), ih, registerAll, registerNew_of_no_uuid hn,
        pure_bind]
    | some u =>
      rw [List.filter_cons_of_pos (by simp [hn]), registerAll, registerAll]
      simp only [ih]

theorem sync_filter (ns : List ClusterNode) :
    a.sync r (ns.filter fun n => n.uuid?.isSome) = a.sync r ns := by
  have hlisted : (ns.filter fun n => n.uuid?.isSome).filterMap ClusterNode.uuid? =
      ns.filterMap ClusterNode.uuid? := by
    rw [List.filterMap_filter]
    refine List.filterMap_congr fun n _ => ?_
    cases n.uuid? <;> rfl
  unfold sync Registry.unregisterOthers
  rw [hlisted, registerAll_filter]

/-! ## Watches -/

theorem applyAll_append (es fs : List ClusterEvent) :
    a.applyAll r (es ++ fs) = a.applyAll r es >>= fun r => a.applyAll r fs := by
  induction es generalizing r with
  | nil => rw [List.nil_append, applyAll, pure_bind]
  | cons e es ih =>
    rw [List.cons_append, applyAll, applyAll, LawfulMonad.bind_assoc]
    simp only [ih]

theorem applyReports_of_yields {rs : List WatchReport} {goesOn : Bool}
    (h : (a.applyReports r rs).Yields xs (r', goesOn)) :
    (a.applyAll r (WatchReport.delivered rs).1).Yields xs r' ∧
      goesOn = (WatchReport.delivered rs).2 := by
  induction rs generalizing r xs with
  | nil =>
    obtain ⟨rfl, hret⟩ := yields_pure_iff.mp h
    cases hret
    exact ⟨.ret _, rfl⟩
  | cons report rs ih =>
    cases report with
    | event e =>
      obtain ⟨ys, r₁, zs, happly, hrest, rfl⟩ := yields_bind_iff.mp h
      obtain ⟨hall, hgoesOn⟩ := ih hrest
      exact ⟨yields_bind_iff.mpr ⟨ys, r₁, zs, happly, hall, rfl⟩, hgoesOn⟩
    | bookmark => exact ih h
    | failure =>
      obtain ⟨rfl, hret⟩ := yields_pure_iff.mp h
      cases hret
      exact ⟨.ret _, rfl⟩

theorem applyAnswer_of_yields {q : WatchRequest} {answer : WatchAnswer} {goesOn : Bool}
    (h : (a.applyAnswer r q answer).Yields xs (r', goesOn)) :
    (a.applyAll r (answer.delivered q).1).Yields xs r' ∧ goesOn = (answer.delivered q).2 := by
  have hnothing (h : (pure (r, false) : Protocol Resolver.interface _).Yields xs (r', goesOn)) :
      (a.applyAll r []).Yields xs r' ∧ goesOn = false := by
    obtain ⟨rfl, hret⟩ := yields_pure_iff.mp h
    cases hret
    exact ⟨.ret _, rfl⟩
  cases q with
  | list =>
    cases answer with
    | nodes ns =>
      obtain ⟨ys, r₁, zs, happly, hret, rfl⟩ := yields_bind_iff.mp h
      obtain ⟨rfl, hres⟩ := yields_pure_iff.mp hret
      cases hres
      exact ⟨yields_bind_iff.mpr ⟨ys, _, [], happly, .ret _, rfl⟩, rfl⟩
    | reports rs => exact hnothing h
    | failure => exact hnothing h
  | watch =>
    cases answer with
    | nodes ns => exact hnothing h
    | reports rs => exact applyReports_of_yields h
    | failure => exact hnothing h

/-- A registry that follows the cluster through any number of watches goes through the changes that
are delivered, in their order. -/
theorem applyAll_of_follow {delay : Nat} {q : WatchRequest} {answers : List WatchAnswer}
    {qs : List WatchRequest} (h : (a.follow delay r q answers).Yields xs (r', qs)) :
    ∃ ys, (a.applyAll r (q.delivered answers)).Yields ys r' := by
  induction answers generalizing r q qs xs with
  | nil =>
    obtain ⟨-, hret⟩ := yields_pure_iff.mp h
    cases hret
    exact ⟨[], .ret _⟩
  | cons answer answers ih =>
    obtain ⟨ys, ⟨r₁, goesOn⟩, zs, hanswer, hrest, rfl⟩ := yields_bind_iff.mp h
    obtain ⟨happly, rfl⟩ := applyAnswer_of_yields hanswer
    have hnext : ∃ vs qs₂, (a.follow delay r₁
        (if (answer.delivered q).2 then .watch else .list) answers).Yields vs (r', qs₂) := by
      dsimp only at hrest
      split at hrest
      -- A pause before the next request does not change the registry.
      · obtain ⟨us, paused, vs, hpause, hfollows, hsplit⟩ := yields_bind_iff.mp hrest
        obtain ⟨ws, ⟨r₂, qs₂⟩, ts, hfollow, hret, hsplit⟩ := yields_bind_iff.mp hfollows
        obtain ⟨-, hres⟩ := yields_pure_iff.mp hret
        cases hres
        exact ⟨ws, qs₂, hfollow⟩
      · obtain ⟨ws, ⟨r₂, qs₂⟩, ts, hfollow, hret, hsplit⟩ := yields_bind_iff.mp hrest
        obtain ⟨-, hres⟩ := yields_pure_iff.mp hret
        cases hres
        exact ⟨ws, qs₂, hfollow⟩
    obtain ⟨vs, qs₂, hfollow⟩ := hnext
    obtain ⟨ps, hps⟩ := ih hfollow
    refine ⟨ys ++ ps, ?_⟩
    rw [WatchRequest.delivered, applyAll_append]
    exact yields_bind_iff.mpr ⟨ys, r₁, ps, happly, hps, rfl⟩

/-! ## All changes -/

/-- From every reachable state on, the nodes in the cluster are those that the changes leave in it, be
they followed one by one or through any number of watches; all states on the way are reachable again.
Nodes without a UUID make no difference. The index stays as it is when nodes leave, one by one or
because a listing leaves them out. After the same listing, the same nodes are in the cluster. -/
theorem members_follow_changes (hr : Reachable a r) :
    (∀ es xs r', (a.applyAll r es).Yields xs r' → Reachable a r' ∧ Follows r es r') ∧
    (∀ delay q answers xs r' qs, (a.follow delay r q answers).Yields xs (r', qs) →
      Reachable a r' ∧ Follows r (q.delivered answers) r') ∧
    (∀ n : ClusterNode, n.uuid? = none →
      a.apply r (.applied n) = pure r ∧ a.apply r (.deleted n) = pure r) ∧
    (∀ ns, a.apply r (.restarted (ns.filter fun n => n.uuid?.isSome)) = a.apply r (.restarted ns)) ∧
    (∀ n xs r', (a.apply r (.deleted n)).Yields xs r' → r'.index = r.index) ∧
    (∀ ns, (r.unregisterOthers ns).members = r.members ∩ ClusterNode.uuids ns ∧
      (r.unregisterOthers ns).index = r.index) ∧
    ∀ b s, Reachable b s → ∀ ns xs ys r' s', (a.apply r (.restarted ns)).Yields xs r' →
      (b.apply s (.restarted ns)).Yields ys s' → r'.members = s'.members := by
  have hkeyed : r.Keyed := keyed_of_reachable hr
  refine ⟨?_, ?_, ?_, fun ns => sync_filter ns, ?_, ?_, ?_⟩
  · intro es xs r' h
    exact ⟨reachable_of_applyAll hr h, follows_of_applyAll hkeyed h⟩
  · intro delay q answers xs r' qs h
    obtain ⟨ys, hys⟩ := applyAll_of_follow h
    exact ⟨reachable_of_applyAll hr hys, follows_of_applyAll hkeyed hys⟩
  · intro n hn
    refine ⟨registerNew_of_no_uuid hn, ?_⟩
    exact congrArg pure (unregister_of_no_uuid hn)
  · intro n xs r' h
    obtain ⟨-, rfl⟩ := yields_pure_iff.mp h
    exact Registry.index_unregister r n
  · intro ns
    refine ⟨Registry.members_unregisterOthers hkeyed ns, ?_⟩
    exact (Registry.grows_unregisterOthers a r ns).index
  · intro b s hs ns xs ys r' s' h h'
    rw [members_of_apply hkeyed h, members_of_apply (keyed_of_reachable hs) h']
    rfl

/-- A node is listed in two spellings beside one without a UUID, another one joins, and the first
leaves. -/
def changes : List ClusterEvent :=
  [.restarted [⟨some "node-a", some "4210A1B2"⟩, ⟨some "blank", some " "⟩,
      ⟨some "node-a", some " 4210a1b2\n"⟩],
    .applied ⟨none, some "4210C3D4"⟩, .deleted ⟨some "node-a", some "4210a1B2"⟩]

/-- The other node is left, whether the changes come one by one or through two watches. -/
theorem members_follow_changes_spelled :
    (∃ xs r', (fleet.applyAll {} changes).Yields xs r' ∧ r'.members = {"4210c3d4"}) ∧
    (∃ xs r' qs, (fleet.follow 5000 {} .list [.nodes [⟨some "node-a", some "4210A1B2"⟩],
        .reports [.event (.applied ⟨none, some "4210C3D4"⟩), .failure],
        .nodes [⟨none, some " 4210C3D4"⟩]]).Yields xs (r', qs) ∧ r'.members = {"4210c3d4"}) ∧
    fleet.apply {} (.applied ⟨some "blank", some " "⟩) = pure {} ∧
    ∃ xs ys r' s', (fleet.apply {} (.restarted [⟨none, some "4210C3D4"⟩])).Yields xs r' ∧
      (fleet.apply {} (.restarted [⟨none, some "4210C3D4"⟩])).Yields ys s' ∧
      r'.members = s'.members := by
  obtain ⟨hchanges, hwatches, hblank, -, -, -, hsame⟩ := members_follow_changes (a := fleet) .empty
  have hrun {α : Type} (p : Protocol Resolver.interface α) : ∃ xs b, p.Yields xs b := by
    obtain ⟨xs, hxs⟩ := exists_yields_run (fleet.resolver Trial.handle) p (fleetTrial [])
    exact ⟨xs, _, hxs⟩
  refine ⟨?_, ?_, (hblank _ (by decide +kernel)).1, ?_⟩
  · obtain ⟨xs, r', h⟩ := hrun (fleet.applyAll {} changes)
    refine ⟨xs, r', h, (hchanges _ _ _ h).2.members.trans ?_⟩
    decide +kernel
  · obtain ⟨xs, ⟨r', qs⟩, h⟩ := hrun (fleet.follow 5000 {} .list
      [.nodes [⟨some "node-a", some "4210A1B2"⟩],
        .reports [.event (.applied ⟨none, some "4210C3D4"⟩), .failure],
        .nodes [⟨none, some " 4210C3D4"⟩]])
    refine ⟨xs, r', qs, h, (hwatches _ _ _ _ _ _ h).2.members.trans ?_⟩
    decide +kernel
  · obtain ⟨xs, r', h⟩ := hrun (fleet.apply {} (.restarted [⟨none, some "4210C3D4"⟩]))
    exact ⟨xs, xs, r', r', h, h, hsame fleet {} .empty _ _ _ _ _ h h⟩

end Atlas

end NodeAtlas
