import NodeAtlas.Proofs.Registry.Operations

/-!
# Nodes by name

The index keeps one machine a name, and several machines can have the same name. What a name leads to
depends on the whole history: the machine that was indexed last under it counts, as long as it has
not got another name since and its node is in the cluster. A machine that shares its name with another
one can therefore be in the cluster and out of reach by its name.
-/

namespace NodeAtlas.Registry

open Protocol

variable {a : Atlas} {r : Registry} {xs : List Resolver.interface.Exchange} {name : String}
  {i : NodeInfo}

theorem infoByName_eq_ok_iff :
    r.infoByName name = .ok i ↔
      r.index.byName.find? name = some i ∧ r.registered.contains i.uuid = true := by
  have hkept : (r.index.byName.find? name).filter (fun i => r.registered.contains i.uuid) = some i ↔
      r.index.byName.find? name = some i ∧ r.registered.contains i.uuid = true :=
    Option.filter_eq_some_iff
  rw [← hkept]
  unfold infoByName
  cases (r.index.byName.find? name).filter fun i => r.registered.contains i.uuid with
  | none => simp
  | some j => simp

/-- If the last of the machines with a property has a narrower one too, it is the last with that. -/
theorem getLast?_filter_of_imp {p q : NodeInfo → Bool} {is : List NodeInfo}
    (himp : ∀ j ∈ is, q j = true → p j = true) (hlast : (is.filter p).getLast? = some i)
    (hi : q i = true) : (is.filter q).getLast? = some i := by
  have hsame : is.filter q = (is.filter p).filter q := by
    rw [List.filter_filter]
    refine List.filter_congr fun j hj => ?_
    cases hq : q j with
    | false => rfl
    | true => rw [himp j hj hq, Bool.and_true]
  obtain ⟨js, hjs⟩ := List.getLast?_eq_some_iff.mp hlast
  rw [hsame, hjs, List.filter_append, List.filter_cons_of_pos hi, List.filter_nil,
    List.getLast?_concat]

/-- A name leads to the machine that was indexed last under it, provided that this machine is still
held so and that its node is in the cluster. Whatever it leads to is in the cluster, in the index and
of that name; and a machine in the cluster and in the index is reached by its name unless another
machine has been indexed under the same name. -/
theorem infoByName_eq_ok_iff_latest {os : List RegistryOperation}
    (h : (a.performAll {} os).Yields xs r) (name : String) :
    (∀ i, r.infoByName name = .ok i ↔
      ((a.found xs).filter fun j => j.nodeName = name).getLast? = some i ∧
        r.index.byUuid.find? i.uuid = some i ∧ r.registered.contains i.uuid = true) ∧
    (∀ i, r.infoByName name = .ok i → i.nodeName = name ∧
      r.index.byUuid.find? i.uuid = some i ∧ r.registered.contains i.uuid = true) ∧
    ∀ u i, r.registered.contains u = true → r.index.byUuid.find? u = some i →
      i.nodeName = name → (∀ j ∈ a.found xs, j.nodeName = name → j.uuid = u) →
      r.infoByName name = .ok i := by
  have hindex : r.index = Index.ofList (a.found xs) := (Atlas.grows_of_performAll h).index
  have hiff : ∀ i, r.infoByName name = .ok i ↔
      ((a.found xs).filter fun j => j.nodeName = name).getLast? = some i ∧
        r.index.byUuid.find? i.uuid = some i ∧ r.registered.contains i.uuid = true := by
    intro i
    rw [infoByName_eq_ok_iff, hindex, Index.find?_byName_ofList_iff, and_assoc]
  refine ⟨hiff, ?_, ?_⟩
  · intro i hi
    obtain ⟨hlast, huuid, hregistered⟩ := (hiff i).mp hi
    obtain ⟨-, hname⟩ := List.mem_filter.mp (List.mem_of_getLast? hlast)
    exact ⟨of_decide_eq_true hname, huuid, hregistered⟩
  · intro u i hregistered huuid hname hunshared
    have hu : i.uuid = u := by
      rw [hindex] at huuid
      exact (Index.sound_ofList _).keyed u i huuid
    rw [hiff, hu]
    refine ⟨?_, huuid, hregistered⟩
    -- All machines of this name have the UUID, and the last with the UUID has the name.
    rw [hindex, Index.find?_byUuid_ofList] at huuid
    refine getLast?_filter_of_imp (fun j hj hjname => ?_) huuid (decide_eq_true hname)
    exact decide_eq_true (hunshared j hj (of_decide_eq_true hjname))

/-- Nodes of the fleet join one after the other, and their machines are found. -/
def joined (uuids : List String) : Registry :=
  ⟨.ofList (uuids.map fun u => fleet.describe (workerFound u)),
    .ofList (uuids.map fun u => (u, ⟨some u, some u⟩))⟩

/-- A single machine is reached by its name, and of two machines of one name the later one. -/
theorem infoByName_eq_ok_iff_latest_joined :
    (joined ["4210a1b2"]).infoByName "worker-1" = .ok (fleet.describe (workerFound "4210a1b2")) ∧
    (joined ["4210a1b2", "4210c3d4"]).infoByName "worker-1" =
      .ok (fleet.describe (workerFound "4210c3d4")) ∧
    (fleet.describe (workerFound "4210c3d4")).nodeName = "worker-1" := by
  have hone : (fleet.performAll {} [.register ⟨some "4210a1b2", some "4210a1b2"⟩]).Yields
      [⟨.find .uuid "4210a1b2", .ok (workerFound "4210a1b2")⟩] (joined ["4210a1b2"]) :=
    .call _ (.ret _)
  have htwo : (fleet.performAll {} [.register ⟨some "4210a1b2", some "4210a1b2"⟩,
        .register ⟨some "4210c3d4", some "4210c3d4"⟩]).Yields
      [⟨.find .uuid "4210a1b2", .ok (workerFound "4210a1b2")⟩,
        ⟨.find .uuid "4210c3d4", .ok (workerFound "4210c3d4")⟩]
      (joined ["4210a1b2", "4210c3d4"]) :=
    .call _ (.call _ (.ret _))
  have hlater := ((infoByName_eq_ok_iff_latest htwo "worker-1").1
    (fleet.describe (workerFound "4210c3d4"))).mpr
    ⟨by decide +kernel, by decide +kernel, by decide +kernel⟩
  refine ⟨?_, hlater, ((infoByName_eq_ok_iff_latest htwo "worker-1").2.1 _ hlater).1⟩
  exact (infoByName_eq_ok_iff_latest hone "worker-1").2.2 "4210a1b2" _ (by decide +kernel)
    (by decide +kernel) (by decide +kernel) (by decide +kernel)

/-- The node of a machine joins, and then another machine of the same name is looked for. -/
def namesakes : List RegistryOperation :=
  [.register ⟨some "node-a", some "4210A1B2"⟩, .discover .uuid "4210C3D4"]

/-- The first machine is in the index and its node in the cluster, and yet its name leads nowhere. -/
theorem exists_registered_out_of_reach :
    ∃ xs r, (fleet.performAll {} namesakes).Yields xs r ∧
      (∃ u i, r.registered.contains u = true ∧ r.index.byUuid.find? u = some i ∧
        i.nodeName = "worker-1") ∧
      r.infoByName "worker-1" = .error (.vmNotFound "node worker-1") := by
  obtain ⟨xs, hxs⟩ := exists_yields_run (fleet.resolver Trial.handle)
    (fleet.performAll {} namesakes) (fleetTrial [])
  have hstate : let r := ((fleet.performAll {} namesakes).run (fleet.resolver Trial.handle)
        (fleetTrial [])).1
      r.registered.contains "4210a1b2" = true ∧
      r.index.byUuid.find? "4210a1b2" = some (fleet.describe (workerFound "4210a1b2")) ∧
      r.infoByName "worker-1" = .error (.vmNotFound "node worker-1") := by
    decide +kernel
  obtain ⟨hregistered, huuid, hname⟩ := hstate
  exact ⟨xs, _, hxs, ⟨"4210a1b2", _, hregistered, huuid, rfl⟩, hname⟩

end NodeAtlas.Registry
