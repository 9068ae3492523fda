import NodeAtlas.Proofs.Index.Insert

/-!
# Listings of the index

What the index selects is known by its members and their order: the machines at the endpoint and in
the datacenter that are asked for, by endpoint, datacenter and UUID. As no branch of the tree is empty,
an endpoint or a datacenter is found exactly if some machine is there.
-/

namespace NodeAtlas

/-- Where a machine stands in listings. -/
def NodeInfo.path (i : NodeInfo) : List String :=
  [i.place.server, i.place.datacenter.name, i.uuid]

/-- The machine is at the endpoint and in the datacenter that are asked for. -/
def NodeInfo.Within (server datacenter : String) (i : NodeInfo) : Prop :=
  server = "" ∨ i.place.server = server ∧ (datacenter = "" ∨ i.place.datacenter.name = datacenter)

/-- What lies under smaller keys comes first. -/
theorem Dict.pairwise_flatMap_values {α β : Type} {d : Dict α} {f : α → List β} {R : β → β → Prop}
    (hwithin : ∀ k v, d.find? k = some v → (f v).Pairwise R)
    (hacross : ∀ k v k' v', k < k' → d.find? k = some v → d.find? k' = some v' →
      ∀ b ∈ f v, ∀ b' ∈ f v', R b b') :
    (d.values.flatMap f).Pairwise R := by
  rw [values, List.flatMap_map, List.pairwise_flatMap]
  constructor
  · intro e he
    exact hwithin e.1 e.2 (find?_eq_some_iff.mpr he)
  · refine d.ordered.imp_of_mem fun {e e'} he he' hlt => ?_
    exact hacross e.1 e.2 e'.1 e'.2 hlt (find?_eq_some_iff.mpr he) (find?_eq_some_iff.mpr he')

/-! ## The tree -/

namespace Tree

variable {t : Tree} {s d u : String} {i : NodeInfo} {ds : Dict (Dict NodeInfo)} {ms : Dict NodeInfo}

/-- The machines of an endpoint. -/
def machinesOf (ds : Dict (Dict NodeInfo)) : List NodeInfo := ds.values.flatMap Dict.values

theorem machineAt_of_find? (hds : t.find? s = some ds) (hms : ds.find? d = some ms) (u : String) :
    t.machineAt s d u = ms.find? u := by
  unfold machineAt
  rw [hds, Option.bind_some, hms, Option.bind_some]

theorem mem_values_iff (hds : t.find? s = some ds) (hms : ds.find? d = some ms) :
    i ∈ ms.values ↔ ∃ u, t.machineAt s d u = some i := by
  rw [Dict.mem_values_iff]
  simp only [machineAt_of_find? hds hms]

theorem mem_machinesOf_iff (hds : t.find? s = some ds) :
    i ∈ machinesOf ds ↔ ∃ d u, t.machineAt s d u = some i := by
  unfold machinesOf machineAt
  simp only [List.mem_flatMap, Dict.mem_values_iff, hds, Option.bind_some]
  constructor
  · rintro ⟨ms, ⟨d, hms⟩, u, hi⟩
    exact ⟨d, u, by rw [hms, Option.bind_some, hi]⟩
  · rintro ⟨d, u, hi⟩
    obtain ⟨ms, hms, hi⟩ := Option.bind_eq_some_iff.mp hi
    exact ⟨ms, ⟨d, hms⟩, u, hi⟩

theorem mem_all_iff : i ∈ t.all ↔ ∃ s d u, t.machineAt s d u = some i := by
  have hall : t.all = t.values.flatMap machinesOf := rfl
  rw [hall, List.mem_flatMap]
  constructor
  · rintro ⟨ds, hds, hi⟩
    obtain ⟨s, hs⟩ := Dict.mem_values_iff.mp hds
    exact ⟨s, (mem_machinesOf_iff hs).mp hi⟩
  · rintro ⟨s, d, u, hi⟩
    cases hs : t.find? s with
    | none =>
      rw [machineAt, hs] at hi
      cases hi
    | some ds => exact ⟨ds, Dict.mem_values_iff.mpr ⟨s, hs⟩, (mem_machinesOf_iff hs).mpr ⟨d, u, hi⟩⟩

/-! ## Empty branches -/

theorem Pruned.find?_datacenter_iff (h : t.Pruned) (hds : t.find? s = some ds) :
    (∃ ms, ds.find? d = some ms) ↔ ∃ u i, t.machineAt s d u = some i := by
  constructor
  · rintro ⟨ms, hms⟩
    obtain ⟨u, i, hi⟩ := Dict.isEmpty_eq_false_iff.mp ((h s ds hds).2 d ms hms)
    exact ⟨u, i, by rw [machineAt_of_find? hds hms, hi]⟩
  · rintro ⟨u, i, hi⟩
    rw [machineAt, hds, Option.bind_some] at hi
    obtain ⟨ms, hms, -⟩ := Option.bind_eq_some_iff.mp hi
    exact ⟨ms, hms⟩

theorem Pruned.find?_endpoint_iff (h : t.Pruned) :
    (∃ ds, t.find? s = some ds) ↔ ∃ d u i, t.machineAt s d u = some i := by
  constructor
  · rintro ⟨ds, hds⟩
    obtain ⟨d, ms, hms⟩ := Dict.isEmpty_eq_false_iff.mp (h s ds hds).1
    exact ⟨d, (h.find?_datacenter_iff hds).mp ⟨ms, hms⟩⟩
  · rintro ⟨d, u, i, hi⟩
    obtain ⟨ms, hms, -⟩ := Option.bind_eq_some_iff.mp hi
    obtain ⟨ds, hds, -⟩ := Option.bind_eq_some_iff.mp hms
    exact ⟨ds, hds⟩

/-! ## Order -/

/-- Every machine is held at its own place. -/
def Placed (t : Tree) : Prop := ∀ s d u i, t.machineAt s d u = some i → i.path = [s, d, u]

/-- Machines are listed in the order of their paths. -/
abbrev Listed (is : List NodeInfo) : Prop := is.Pairwise fun i j => i.path < j.path

theorem Placed.listed_values (h : t.Placed) (hds : t.find? s = some ds) (hms : ds.find? d = some ms) :
    Listed ms.values := by
  rw [Listed, Dict.values, List.pairwise_map]
  refine ms.ordered.imp_of_mem fun {e e'} he he' hlt => ?_
  have hpath {e : String × NodeInfo} (he : e ∈ ms.entries) : e.2.path = [s, d, e.1] := by
    refine h s d e.1 e.2 ?_
    rw [machineAt_of_find? hds hms]
    exact Dict.find?_eq_some_iff.mpr he
  rw [hpath he, hpath he']
  simp [List.cons_lt_cons_iff, hlt]

theorem Placed.listed_machinesOf (h : t.Placed) (hds : t.find? s = some ds) :
    Listed (machinesOf ds) := by
  refine Dict.pairwise_flatMap_values (fun d ms hms => h.listed_values hds hms) ?_
  intro d ms d' ms' hlt hms hms' i hi j hj
  obtain ⟨u, hu⟩ := (mem_values_iff hds hms).mp hi
  obtain ⟨u', hu'⟩ := (mem_values_iff hds hms').mp hj
  rw [h s d u i hu, h s d' u' j hu']
  simp [List.cons_lt_cons_iff, hlt]

theorem Placed.listed_all (h : t.Placed) : Listed t.all := by
  refine Dict.pairwise_flatMap_values (fun s ds hds => h.listed_machinesOf hds) ?_
  intro s ds s' ds' hlt hds hds' i hi j hj
  obtain ⟨d, u, hu⟩ := (mem_machinesOf_iff hds).mp hi
  obtain ⟨d', u', hu'⟩ := (mem_machinesOf_iff hds').mp hj
  rw [h s d u i hu, h s' d' u' j hu']
  simp [List.cons_lt_cons_iff, hlt]

end Tree

/-! ## Selections -/

namespace Index

variable {x : Index} {s d : String}

/-- The index holds the machine. -/
def Holds (x : Index) (i : NodeInfo) : Prop := x.byUuid.find? i.uuid = some i

theorem Sound.placed_tree (h : x.Sound) : x.tree.Placed := by
  intro s d u i hi
  obtain ⟨huuid, hs, hd⟩ := (h.placed s d u i).mp hi
  rw [NodeInfo.path, hs, hd, h.keyed u i huuid]

theorem Sound.machineAt_iff (h : x.Sound) {i : NodeInfo} :
    (∃ u, x.tree.machineAt s d u = some i) ↔
      x.Holds i ∧ i.place.server = s ∧ i.place.datacenter.name = d := by
  constructor
  · rintro ⟨u, hi⟩
    obtain ⟨huuid, hplace⟩ := (h.placed s d u i).mp hi
    rw [← h.keyed u i huuid] at huuid
    exact ⟨huuid, hplace⟩
  · rintro ⟨huuid, hplace⟩
    exact ⟨i.uuid, (h.placed s d i.uuid i).mpr ⟨huuid, hplace⟩⟩

theorem Sound.find?_endpoint_iff (h : x.Sound) :
    (∃ ds, x.tree.find? s = some ds) ↔ ∃ i, x.Holds i ∧ i.place.server = s := by
  rw [h.pruned.find?_endpoint_iff]
  constructor
  · rintro ⟨d, u, i, hi⟩
    obtain ⟨hheld, hs, -⟩ := h.machineAt_iff.mp ⟨u, hi⟩
    exact ⟨i, hheld, hs⟩
  · rintro ⟨i, hheld, hs⟩
    obtain ⟨u, hu⟩ := h.machineAt_iff.mpr ⟨hheld, hs, rfl⟩
    exact ⟨_, u, i, hu⟩

theorem Sound.find?_datacenter_iff (h : x.Sound) {ds : Dict (Dict NodeInfo)}
    (hds : x.tree.find? s = some ds) :
    (∃ ms, ds.find? d = some ms) ↔
      ∃ i, x.Holds i ∧ i.place.server = s ∧ i.place.datacenter.name = d := by
  rw [h.pruned.find?_datacenter_iff hds, exists_comm]
  simp only [h.machineAt_iff]

/-- What is selected are the machines within the endpoint and the datacenter, in their order. -/
theorem Sound.select_eq_ok (h : x.Sound) {is : List NodeInfo} (hselect : x.select s d = .ok is) :
    Tree.Listed is ∧ ∀ i, i ∈ is ↔ x.Holds i ∧ i.Within s d := by
  unfold select at hselect
  simp only [String.isEmpty_iff] at hselect
  by_cases hs : s = ""
  · rw [if_pos hs] at hselect
    cases hselect
    refine ⟨h.placed_tree.listed_all, fun i => ?_⟩
    rw [Tree.mem_all_iff]
    simp [h.machineAt_iff, NodeInfo.Within, hs]
  · rw [if_neg hs] at hselect
    cases hds : x.tree.find? s with
    | none =>
      rw [hds] at hselect
      cases hselect
    | some ds =>
      simp only [hds] at hselect
      by_cases hd : d = ""
      · rw [if_pos hd] at hselect
        cases hselect
        refine ⟨h.placed_tree.listed_machinesOf hds, fun i => (Tree.mem_machinesOf_iff hds).trans ?_⟩
        simp [h.machineAt_iff, NodeInfo.Within, hs, hd]
      · rw [if_neg hd] at hselect
        cases hms : ds.find? d with
        | none =>
          rw [hms] at hselect
          cases hselect
        | some ms =>
          rw [hms] at hselect
          cases hselect
          refine ⟨h.placed_tree.listed_values hds hms, fun i => (Tree.mem_values_iff hds hms).trans ?_⟩
          simp [h.machineAt_iff, NodeInfo.Within, hs, hd]

/-- An endpoint is unknown if the index holds no machine of it. -/
theorem Sound.select_unknown (h : x.Sound) (hs : s ≠ "")
    (hnone : ∀ i, x.Holds i → i.place.server ≠ s) (d : String) :
    x.select s d = .error (.endpointNotFound s) := by
  have hfind : x.tree.find? s = none := by
    rw [Option.eq_none_iff_forall_ne_some]
    intro ds hds
    obtain ⟨i, hi, hserver⟩ := h.find?_endpoint_iff.mp ⟨ds, hds⟩
    exact hnone i hi hserver
  unfold select
  simp [hs, hfind]

theorem Sound.select_endpoint (h : x.Sound) {i : NodeInfo} (hi : x.Holds i)
    (hs : i.place.server = s) : ∃ is, x.select s "" = .ok is := by
  unfold select
  simp only [String.isEmpty_iff]
  by_cases hempty : s = ""
  · exact ⟨_, if_pos hempty⟩
  · obtain ⟨ds, hds⟩ := h.find?_endpoint_iff.mpr ⟨i, hi, hs⟩
    rw [if_neg hempty, hds]
    exact ⟨_, rfl⟩

/-- In a known endpoint, a datacenter is unknown if the index holds no machine of it, and else its
machines are selected. -/
theorem Sound.select_datacenter (h : x.Sound) {i : NodeInfo} (hi : x.Holds i)
    (hs : i.place.server = s) (hsne : s ≠ "") (hd : d ≠ "") :
    ((∀ j, x.Holds j → j.place.server = s → j.place.datacenter.name ≠ d) →
      x.select s d = .error (.datacenterNotFound d)) ∧
    ∀ j, x.Holds j → j.place.server = s → j.place.datacenter.name = d →
      ∃ is, x.select s d = .ok is := by
  obtain ⟨ds, hds⟩ := h.find?_endpoint_iff.mpr ⟨i, hi, hs⟩
  unfold select
  simp only [String.isEmpty_iff, if_neg hsne, if_neg hd, hds]
  constructor
  · intro hnone
    have hfind : ds.find? d = none := by
      rw [Option.eq_none_iff_forall_ne_some]
      intro ms hms
      obtain ⟨j, hj, hserver, hdatacenter⟩ := (h.find?_datacenter_iff hds).mp ⟨ms, hms⟩
      exact hnone j hj hserver hdatacenter
    rw [hfind]
  · intro j hj hserver hdatacenter
    obtain ⟨ms, hms⟩ := (h.find?_datacenter_iff hds).mpr ⟨j, hj, hserver, hdatacenter⟩
    rw [hms]
    exact ⟨_, rfl⟩

end Index

end NodeAtlas
