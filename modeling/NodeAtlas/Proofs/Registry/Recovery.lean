import NodeAtlas.Proofs.Registry.Members

/-!
# Recovery

A new listing of the cluster has the machines looked for of those nodes that were not in the cluster
before. When all of these are found, everything is known about them, and about the nodes whose
machines had been found already. A node that joined while its machine could not be found is left out:
it is in the cluster, so its machine is not looked for again.
-/

namespace NodeAtlas

open Protocol Resolver NodeAtlas.Text

variable {a : Atlas} {r r' : Registry} {xs : List Resolver.interface.Exchange} {u : String}

theorem Resolver.sought_append_iff {ys : List Resolver.interface.Exchange} :
    Sought u (xs ++ ys) ↔ Sought u xs ∨ Sought u ys := by
  unfold Sought
  simp only [List.mem_append, exists_or]

theorem Resolver.not_sought_nil : ¬ Sought u [] := by
  rintro ⟨reply, hmem⟩
  cases hmem

theorem Resolver.sought_find_iff {v : String} {reply : Result Found} :
    Sought u [⟨.find .uuid v, reply⟩] ↔ u = v := by
  constructor
  · rintro ⟨reply', hmem⟩
    cases List.mem_singleton.mp hmem
    rfl
  · rintro rfl
    exact ⟨reply, List.mem_singleton.mpr rfl⟩

/-! ## Searches of a listing -/

namespace Atlas

/-- Every exchange is a search by UUID. -/
def OnlySearches (xs : List Resolver.interface.Exchange) : Prop :=
  ∀ x ∈ xs, ∃ (u : String) (reply : Result Found), x = ⟨.find .uuid u, reply⟩

/-- The machine of a node is looked for if the node has a UUID and is not in the cluster yet. -/
theorem searches_of_registerNew {n : ClusterNode} (h : (a.registerNew r n).Yields xs r') :
    OnlySearches xs ∧ ∀ u, Sought u xs ↔ n.uuid? = some u ∧ u ∉ r.members := by
  cases hn : n.uuid? with
  | none =>
    rw [registerNew_of_no_uuid hn] at h
    obtain ⟨rfl, -⟩ := yields_pure_iff.mp h
    exact ⟨nofun, fun u => by simp [not_sought_nil]⟩
  | some v =>
    have hholds : r.holds n = true ↔ v ∈ r.members := by
      unfold Registry.holds
      rw [hn, Registry.mem_members_iff]
    unfold registerNew at h
    split at h
    · rename_i hknown
      obtain ⟨rfl, -⟩ := yields_pure_iff.mp h
      refine ⟨nofun, fun u => ?_⟩
      constructor
      · exact fun hu => (not_sought_nil hu).elim
      · rintro ⟨hu, hnew⟩
        cases hu
        exact (hnew (hholds.mp hknown)).elim
    · rename_i hnew
      obtain ⟨reply, rfl, -⟩ := register_of_yields hn h
      refine ⟨fun x hx => ⟨v, reply, List.mem_singleton.mp hx⟩, fun u => ?_⟩
      rw [sought_find_iff]
      constructor
      · rintro rfl
        exact ⟨rfl, fun hmem => hnew (hholds.mpr hmem)⟩
      · rintro ⟨hu, -⟩
        cases hu
        rfl

theorem searches_of_registerAll {ns : List ClusterNode} (h : (a.registerAll r ns).Yields xs r') :
    OnlySearches xs ∧ ∀ u, Sought u xs ↔ u ∈ ClusterNode.uuids ns ∧ u ∉ r.members := by
  induction ns generalizing r xs with
  | nil =>
    obtain ⟨rfl, -⟩ := yields_pure_iff.mp h
    exact ⟨nofun, fun u => by simp [not_sought_nil, ClusterNode.uuids]⟩
  | cons n ns ih =>
    obtain ⟨ys, r₁, zs, hnew, hall, rfl⟩ := yields_bind_iff.mp h
    obtain ⟨hys, hsought⟩ := searches_of_registerNew hnew
    obtain ⟨hzs, hrest⟩ := ih hall
    refine ⟨fun x hx => ?_, fun u => ?_⟩
    · rcases List.mem_append.mp hx with hx | hx
      · exact hys x hx
      · exact hzs x hx
    · -- A node that is listed twice is looked for at its first place only.
      have hcons : u ∈ ClusterNode.uuids (n :: ns) ↔ n.uuid? = some u ∨ u ∈ ClusterNode.uuids ns := by
        simp only [ClusterNode.mem_uuids_iff, List.mem_cons, exists_eq_or_imp]
      rw [sought_append_iff, hsought, hrest, hcons, members_of_registerNew hnew, Finset.mem_union,
        Option.mem_toFinset, Option.mem_def]
      tauto

/-- A listing has the machines looked for of the nodes that were not in the cluster before. -/
theorem searches_of_sync (hr : r.Keyed) {ns : List ClusterNode} (h : (a.sync r ns).Yields xs r') :
    OnlySearches xs ∧ ∀ u, Sought u xs ↔ u ∈ ClusterNode.uuids ns ∧ u ∉ r.members := by
  obtain ⟨honly, hsought⟩ := searches_of_registerAll h
  refine ⟨honly, fun u => ?_⟩
  rw [hsought, Registry.members_unregisterOthers hr, Finset.mem_inter]
  tauto

/-! ## Machines that are found -/

theorem exists_found_iff (honly : OnlySearches xs) (hfound : ∀ u, Sought u xs → Resolves u xs) :
    (∃ i ∈ a.found xs, i.uuid = u) ↔ Sought u xs := by
  constructor
  · rintro ⟨i, hi, rfl⟩
    obtain ⟨x, hx, hfx⟩ := List.mem_filterMap.mp hi
    obtain ⟨v, reply, rfl⟩ := honly x hx
    obtain ⟨f, rfl, hf⟩ := hfound v ⟨reply, hx⟩ reply hx
    cases hfx
    change Sought f.uuid xs
    rw [hf]
    exact ⟨.ok f, hx⟩
  · rintro ⟨reply, hx⟩
    obtain ⟨f, rfl, hf⟩ := hfound u ⟨reply, hx⟩ reply hx
    exact ⟨a.describe f, List.mem_filterMap.mpr ⟨_, hx, rfl⟩, hf⟩

/-- After a listing whose searches succeed, the index holds the machines of the new nodes and those
that it held before. -/
theorem indexed_of_sync (hr : r.Keyed) {ns : List ClusterNode} (h : (a.sync r ns).Yields xs r')
    (hfound : ∀ u ∈ ClusterNode.uuids ns, Resolves u xs) :
    r'.index.byUuid.contains u = true ↔
      (u ∈ ClusterNode.uuids ns ∧ u ∉ r.members) ∨ r.index.byUuid.contains u = true := by
  obtain ⟨honly, hsought⟩ := searches_of_sync hr h
  have hresolves : ∀ u, Sought u xs → Resolves u xs :=
    fun u hu => hfound u ((hsought u).mp hu).1
  rw [(grows_of_sync h).index, Index.contains_byUuid_insertAll_iff,
    exists_found_iff honly hresolves, hsought]

end Atlas

/-! ## What is known about a node -/

namespace Registry

theorem info_of_indexed (hr : r.index.Sound) {raw : String} (hin : r.isRegistered raw = true)
    (hu : r.index.byUuid.contains (canonicalize raw) = true) :
    ∃ i, r.info raw = .ok i ∧ i.uuid = canonicalize raw := by
  rw [Dict.contains_eq] at hu
  obtain ⟨i, hi⟩ := Option.isSome_iff_exists.mp hu
  refine ⟨i, ?_, hr.keyed _ i hi⟩
  unfold isRegistered at hin
  unfold info
  simp only [hin, hi]
  rfl

theorem info_of_not_indexed {raw : String} (hin : r.isRegistered raw = true)
    (hu : r.index.byUuid.contains (canonicalize raw) = false) :
    r.info raw = .error (.vmNotFound ("node " ++ canonicalize raw ++ " was not discovered")) := by
  rw [Dict.contains_eq, Option.isSome_eq_false_iff, Option.isNone_iff_eq_none] at hu
  unfold isRegistered at hin
  unfold info
  simp only [hin, hu]
  rfl

end Registry

namespace Atlas

/-- After a listing whose searches succeed, the machine of a listed node is known if the node was not
in the cluster before or if its machine had been found already. Exactly the machines of the nodes
that were not in the cluster are looked for, and a node that joined without its machine being found
stays without it. -/
theorem info_after_restart (hr : Reachable a r) {ns : List ClusterNode}
    (h : (a.apply r (.restarted ns)).Yields xs r')
    (hfound : ∀ u ∈ ClusterNode.uuids ns, Resolves u xs) {n : ClusterNode} (hn : n ∈ ns)
    {raw : String} (hraw : n.systemUuid = some raw) (hblank : isBlankText raw = false) :
    (Sought (canonicalize raw) xs ↔ r.isRegistered raw = false) ∧
    (r.isRegistered raw = false ∨ r.index.byUuid.contains (canonicalize raw) = true →
      ∃ i, r'.info raw = .ok i ∧ i.uuid = canonicalize raw) ∧
    (r.isRegistered raw = true → r.index.byUuid.contains (canonicalize raw) = false →
      r'.info raw =
        .error (.vmNotFound ("node " ++ canonicalize raw ++ " was not discovered"))) := by
  have hkeyed : r.Keyed := keyed_of_reachable hr
  have hlisted : canonicalize raw ∈ ClusterNode.uuids ns := by
    refine ClusterNode.mem_uuids_iff.mpr ⟨n, hn, ?_⟩
    unfold ClusterNode.uuid?
    rw [hraw, Option.filter_some_pos (by rw [hblank]; rfl), Option.map_some]
  have hmember : canonicalize raw ∈ r.members ↔ r.isRegistered raw = true :=
    Registry.mem_members_iff
  have hregistered : r'.isRegistered raw = true := by
    refine Registry.mem_members_iff.mp ?_
    rw [members_of_sync hkeyed h]
    exact hlisted
  have hindexed := indexed_of_sync (u := canonicalize raw) hkeyed h hfound
  refine ⟨?_, ?_, ?_⟩
  · rw [(searches_of_sync hkeyed h).2, hmember, Bool.not_eq_true]
    exact ⟨fun hs => hs.2, fun hs => ⟨hlisted, hs⟩⟩
  · intro hknown
    refine Registry.info_of_indexed (sound_of_reachable (reachable_of_apply hr h)) hregistered ?_
    rw [hindexed, hmember, Bool.not_eq_true]
    exact hknown.imp_left fun hnew => ⟨hlisted, hnew⟩
  · intro hin hout
    refine Registry.info_of_not_indexed hregistered ?_
    rw [← Bool.not_eq_true, hindexed, hmember]
    rintro (⟨-, hnew⟩ | hheld)
    · exact hnew hin
    · rw [hout] at hheld
      cases hheld

/-- A node of the fleet. -/
def nodeA : ClusterNode := ⟨some "node-a", some "4210A1B2"⟩

/-- The node has joined while its machine could not be found. -/
def stranded : Registry := ⟨{}, .ofList [("4210a1b2", nodeA)]⟩

/-- A listing of this node and of another one has only the machine of the other one looked for. -/
theorem info_after_restart_stranded :
    ∃ xs r' i, (fleet.apply stranded
        (.restarted [nodeA, ⟨some "node-c", some " 4210C3D4"⟩])).Yields xs r' ∧
      Sought "4210c3d4" xs ∧ r'.info " 4210C3D4" = .ok i ∧ i.uuid = "4210c3d4" ∧
      ¬ Sought "4210a1b2" xs ∧
      r'.info "4210A1B2" = .error (.vmNotFound "node 4210a1b2 was not discovered") := by
  have houtage : (fleet.perform {} (.register nodeA)).Yields
      [⟨.find .uuid "4210a1b2", .error (.connection "down")⟩] stranded :=
    .call _ (.ret _)
  have hrestart : (fleet.apply stranded
        (.restarted [nodeA, ⟨some "node-c", some " 4210C3D4"⟩])).Yields
      [⟨.find .uuid "4210c3d4", .ok (workerFound "4210c3d4")⟩]
      ⟨.ofList [fleet.describe (workerFound "4210c3d4")],
        stranded.registered.insert "4210c3d4" ⟨some "node-c", some " 4210C3D4"⟩⟩ :=
    .call _ (.ret _)
  have hfound : ∀ u ∈ ClusterNode.uuids [nodeA, ⟨some "node-c", some " 4210C3D4"⟩],
      Resolves u [⟨.find .uuid "4210c3d4", .ok (workerFound "4210c3d4")⟩] := by
    intro u _ reply hmem
    cases List.mem_singleton.mp hmem
    exact ⟨workerFound "4210c3d4", rfl, rfl⟩
  have hreachable : Reachable fleet stranded := .step .empty _ houtage
  obtain ⟨hskipped, -, hunknown⟩ := info_after_restart hreachable hrestart hfound
    (List.mem_cons_self) rfl (by decide +kernel : isBlankText "4210A1B2" = false)
  obtain ⟨hsought, hknown, -⟩ := info_after_restart hreachable hrestart hfound
    (List.mem_cons_of_mem _ (List.mem_singleton.mpr rfl)) rfl
    (by decide +kernel : isBlankText " 4210C3D4" = false)
  have hA : canonicalize "4210A1B2" = "4210a1b2" := by decide +kernel
  have hC : canonicalize " 4210C3D4" = "4210c3d4" := by decide +kernel
  have hin : stranded.isRegistered "4210A1B2" = true := by decide +kernel
  have hout : stranded.isRegistered " 4210C3D4" = false := by decide +kernel
  rw [hA, hin] at hskipped
  rw [hA] at hunknown
  rw [hC] at hsought hknown
  obtain ⟨i, hi, hu⟩ := hknown (.inl hout)
  refine ⟨_, _, i, hrestart, hsought.mpr hout, hi, hu, ?_, ?_⟩
  · rw [hskipped]
    exact Bool.noConfusion
  · exact hunknown hin rfl

/-- The machine can be found again and its node is listed, and yet nothing is known about it. -/
theorem exists_not_recovered :
    ∃ r s, Reachable fleet r ∧
      (∀ u ∈ ClusterNode.uuids [nodeA],
        ∃ f, (fleet.pool.find Trial.handle .uuid u s).1 = .ok f ∧ f.uuid = u) ∧
      ((fleet.apply r (.restarted [nodeA])).run (fleet.resolver Trial.handle) s).1.info
          "4210A1B2" =
        .error (.vmNotFound "node 4210a1b2 was not discovered") := by
  refine ⟨_, fleetTrial [], reachable_of_run (h := Trial.handle)
    (s := fleetTrial [.fail (.connection "down")]) .empty (.register nodeA), ?_, ?_⟩
  · intro u hu
    have hlisted : u = "4210a1b2" := by
      revert u
      decide +kernel
    rw [hlisted]
    exact ⟨workerFound "4210a1b2", by decide +kernel, rfl⟩
  · decide +kernel

end Atlas

end NodeAtlas
