import NodeAtlas.Proofs.Index.Listing
import NodeAtlas.Proofs.Registry.Operations

/-!
# Order of discoveries

Machines of different UUIDs and names can be added to the index in any order, wherever they were
before and whatever they were called. The index is determined by its look-ups, as no branch of its tree
is empty, and the look-ups do not tell which of the machines came first.
-/

namespace NodeAtlas

open Protocol

/-- The machines have different UUIDs and different names. -/
def NodeInfo.Apart (i j : NodeInfo) : Prop := i.uuid ≠ j.uuid ∧ i.nodeName ≠ j.nodeName

theorem NodeInfo.Apart.symm {i j : NodeInfo} (h : i.Apart j) : j.Apart i := ⟨h.1.symm, h.2.symm⟩

/-- Dictionaries are equal if the views of their values are, as long as these tell the values apart and
none of them is empty. -/
theorem Dict.ext_view {α β κ : Type} (view : α → κ → Option β) {d e : Dict α}
    (hinj : ∀ k v w, d.find? k = some v → e.find? k = some w → (∀ x, view v x = view w x) → v = w)
    (hd : ∀ k v, d.find? k = some v → ∃ x b, view v x = some b)
    (he : ∀ k v, e.find? k = some v → ∃ x b, view v x = some b)
    (h : ∀ k x, (d.find? k).bind (fun v => view v x) = (e.find? k).bind fun v => view v x) : d = e := by
  refine ext_find? fun k => ?_
  cases hv : d.find? k with
  | none =>
    cases hw : e.find? k with
    | none => rfl
    | some w =>
      obtain ⟨x, b, hb⟩ := he k w hw
      have hx := h k x
      rw [hv, hw, Option.bind_none, Option.bind_some, hb] at hx
      cases hx
  | some v =>
    cases hw : e.find? k with
    | none =>
      obtain ⟨x, b, hb⟩ := hd k v hv
      have hx := h k x
      rw [hv, hw, Option.bind_none, Option.bind_some, hb] at hx
      cases hx
    | some w =>
      rw [hinj k v w hv hw fun x => by simpa only [hv, hw, Option.bind_some] using h k x]

namespace Tree

/-- The machine at a place of an endpoint. -/
def machineIn? (ds : Dict (Dict NodeInfo)) (x : String × String) : Option NodeInfo :=
  (ds.find? x.1).bind fun ms => ms.find? x.2

theorem Pruned.exists_machineIn {t : Tree} (h : t.Pruned) {s : String} {ds : Dict (Dict NodeInfo)}
    (hds : t.find? s = some ds) : ∃ x i, machineIn? ds x = some i := by
  obtain ⟨d, ms, hms⟩ := Dict.isEmpty_eq_false_iff.mp (h s ds hds).1
  obtain ⟨u, i, hi⟩ := Dict.isEmpty_eq_false_iff.mp ((h s ds hds).2 d ms hms)
  refine ⟨(d, u), i, ?_⟩
  rw [machineIn?, hms, Option.bind_some, hi]

/-- A tree without empty branches is determined by the machines at its places. -/
theorem Pruned.ext {t t' : Tree} (ht : t.Pruned) (ht' : t'.Pruned)
    (h : ∀ s d u, t.machineAt s d u = t'.machineAt s d u) : t = t' := by
  refine Dict.ext_view machineIn? (fun s ds ds' hds hds' heq => ?_)
    (fun s ds => ht.exists_machineIn) (fun s ds => ht'.exists_machineIn) fun s x => ?_
  · refine Dict.ext_view Dict.find? (fun _ _ _ _ _ => Dict.ext_find?) (fun d ms hms => ?_)
      (fun d ms hms => ?_) fun d u => heq (d, u)
    · exact Dict.isEmpty_eq_false_iff.mp ((ht s ds hds).2 d ms hms)
    · exact Dict.isEmpty_eq_false_iff.mp ((ht' s ds' hds').2 d ms hms)
  · have hx := h s x.1 x.2
    unfold machineAt at hx
    rwa [Option.bind_assoc, Option.bind_assoc] at hx

end Tree

namespace Index

variable {x y : Index} {i j : NodeInfo} {is js : List NodeInfo}

theorem Sound.ext (hx : x.Sound) (hy : y.Sound) (huuid : ∀ u, x.byUuid.find? u = y.byUuid.find? u)
    (hname : ∀ n, x.byName.find? n = y.byName.find? n) : x = y := by
  have htree : x.tree = y.tree := hx.pruned.ext hy.pruned fun s d u => by
    rw [hx.machineAt_eq, hy.machineAt_eq, huuid]
  have hbyName : x.byName = y.byName := Dict.ext_find? hname
  have hbyUuid : x.byUuid = y.byUuid := Dict.ext_find? huuid
  cases x
  cases y
  simp_all

/-- Whatever their former places and names, machines that are apart can be added in either order. -/
theorem Sound.insert_comm (h : x.Sound) (hij : i.Apart j) :
    (x.insert i).insert j = (x.insert j).insert i := by
  obtain ⟨huuid, hname⟩ := hij
  refine Sound.ext ((h.insert i).insert j) ((h.insert j).insert i) (fun u => ?_) fun n => ?_
  · simp only [find?_byUuid_insert]
    by_cases hu : u = i.uuid
    · rw [if_pos hu, if_pos hu, if_neg (hu ▸ huuid)]
    · rw [if_neg hu, if_neg hu]
  · rw [(h.insert i).find?_byName_insert, (h.insert j).find?_byName_insert, h.find?_byName_insert,
      h.find?_byName_insert]
    by_cases hi : n = i.nodeName
    · -- The second machine does not take the name of the first from it.
      rw [if_pos hi, if_pos hi, if_neg (hi ▸ hname), Option.filter_some_pos (by simpa using huuid)]
    · rw [if_neg hi, if_neg hi]
      by_cases hj : n = j.nodeName
      · rw [if_pos hj, if_pos hj, Option.filter_some_pos (by simpa using huuid.symm)]
      · rw [if_neg hj, if_neg hj, Option.filter_filter, Option.filter_filter]
        simp only [Bool.and_comm]

/-- Two machines can be added in either order exactly if they are apart or the same. -/
theorem Sound.insert_comm_iff (h : x.Sound) :
    (x.insert i).insert j = (x.insert j).insert i ↔ i = j ∨ i.Apart j := by
  constructor
  · intro heq
    by_cases hij : i = j
    · exact .inl hij
    · refine .inr ⟨fun huuid => hij ?_, fun hname => hij ?_⟩
      · have hfind := congrArg (fun x => x.byUuid.find? i.uuid) heq
        simp only [find?_byUuid_insert] at hfind
        rw [if_pos huuid, if_pos trivial] at hfind
        exact (Option.some.inj hfind).symm
      · have hfind := congrArg (fun x => x.byName.find? i.nodeName) heq
        simp only [(h.insert i).find?_byName_insert, (h.insert j).find?_byName_insert] at hfind
        rw [if_pos hname, if_pos trivial] at hfind
        exact (Option.some.inj hfind).symm
  · rintro (rfl | hij)
    · rfl
    · exact h.insert_comm hij

theorem Sound.insertAll_perm (h : x.Sound) (hperm : is.Perm js)
    (hapart : is.Pairwise NodeInfo.Apart) : x.insertAll is = x.insertAll js := by
  induction hperm generalizing x with
  | nil => rfl
  | cons i _ ih => exact ih (h.insert i) (List.pairwise_cons.mp hapart).2
  | swap i j is =>
    have hij : j.Apart i := (List.pairwise_cons.mp hapart).1 i List.mem_cons_self
    exact congrArg (fun y : Index => y.insertAll is) (h.insert_comm hij)
  | trans hperm _ ih₁ ih₂ =>
    exact (ih₁ h hapart).trans (ih₂ h (hperm.pairwise hapart NodeInfo.Apart.symm))

end Index

/-- The order of discoveries does not matter. Whatever was added to an index before, two machines of
different UUIDs and names can be added to it in either order, and no other two different ones can. Any
number of machines of pairwise different UUIDs and names can be added in every order; so histories that
find the same machines of this kind, in whatever order and by whatever operations, lead from a reachable
registry to the same index. -/
theorem Index.same_in_every_order :
    (∀ is i j, ((ofList is).insert i).insert j = ((ofList is).insert j).insert i ↔
      i = j ∨ i.Apart j) ∧
    (∀ is js ks, js.Perm ks → js.Pairwise NodeInfo.Apart →
      (ofList is).insertAll js = (ofList is).insertAll ks) ∧
    ∀ a r, Atlas.Reachable a r → ∀ os os' xs ys r₁ r₂,
      (a.performAll r os).Yields xs r₁ → (a.performAll r os').Yields ys r₂ →
      (a.found xs).Perm (a.found ys) → (a.found xs).Pairwise NodeInfo.Apart → r₁.index = r₂.index := by
  refine ⟨fun is i j => (sound_ofList is).insert_comm_iff,
    fun is js ks => (sound_ofList is).insertAll_perm, ?_⟩
  intro a r hr os os' xs ys r₁ r₂ h h' hperm hapart
  rw [(Atlas.grows_of_performAll h).index, (Atlas.grows_of_performAll h').index]
  exact (Atlas.sound_of_reachable hr).insertAll_perm hperm hapart

/-- A machine of the fleet under another name. -/
def fleetNamed (uuid name : String) : NodeInfo :=
  { fleet.describe (workerFound uuid) with nodeName := name }

/-- Two machines swap their names: whichever is found first, each takes its name from the other. -/
theorem Index.same_in_every_order_swap :
    let x := ofList [fleetNamed "4210a1b2" "worker-1", fleetNamed "4210c3d4" "worker-2"]
    let i := fleetNamed "4210a1b2" "worker-2"
    let j := fleetNamed "4210c3d4" "worker-1"
    x.insertAll [i, j] = x.insertAll [j, i] ∧
      (x.insertAll [i, j]).byName.find? "worker-1" = some j ∧
      (x.insertAll [i, j]).byName.find? "worker-2" = some i := by
  refine ⟨same_in_every_order.2.1 _ _ _ (.swap _ _ []) ?_, by decide +kernel, by decide +kernel⟩
  exact List.pairwise_pair.mpr ⟨by decide, by decide⟩

end NodeAtlas
