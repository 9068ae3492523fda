import Mathlib.Data.List.Sort
import NodeAtlas.Proofs.Index.Listing
import NodeAtlas.Proofs.Registry.Operations
import NodeAtlas.Proofs.Text.Bytes

/-!
# Exports

An export is read from the tree of the index and a single node from its dictionary of UUIDs, and either
of them is restricted to the nodes in the cluster. As the look-ups of the index agree, they tell the
same about every node.
-/

namespace NodeAtlas

open Protocol NodeAtlas.Text

/-- Where a record stands in an export: by endpoint, datacenter and UUID, each compared by its bytes. -/
def NodeRecord.rank (x : NodeRecord) : List (List UInt8) :=
  [bytes x.server, bytes x.datacenter, bytes x.uuid]

/-- The record is of the endpoint and of the datacenter. -/
def NodeRecord.of (server datacenter : String) (x : NodeRecord) : Bool :=
  x.server = server ∧ (datacenter = "" ∨ x.datacenter = datacenter)

theorem NodeInfo.rank_record_lt {i j : NodeInfo} (h : i.path < j.path) :
    i.record.rank < j.record.rank := by
  unfold path at h
  unfold NodeInfo.record NodeRecord.rank
  simp only [List.cons_lt_cons_iff, bytes_lt_iff] at h ⊢
  rcases h with hs | ⟨hs, hd | ⟨hd, hu | ⟨-, hnil⟩⟩⟩
  · exact .inl hs
  · exact .inr ⟨by rw [hs], .inl hd⟩
  · exact .inr ⟨by rw [hs], .inr ⟨by rw [hd], .inl hu⟩⟩
  · exact absurd hnil (List.not_lt_nil _)

namespace Registry

variable {a : Atlas} {r : Registry}

/-- The node of a machine in the index is in the cluster. -/
def Active (r : Registry) (i : NodeInfo) : Prop :=
  r.registered.contains i.uuid = true ∧ r.index.Holds i

/-! ## One node -/

theorem node_of_not_registered {u : String}
    (h : r.registered.contains (canonicalize u) = false) :
    r.node u = .error (.vmNotFound ("node " ++ canonicalize u ++ " is not registered")) := by
  unfold node info
  simp only [h]
  rfl

theorem node_of_registered {u : String} (h : r.registered.contains (canonicalize u) = true) :
    r.node u =
      match r.index.byUuid.find? (canonicalize u) with
      | some i => .ok i.record
      | none => .error (.vmNotFound ("node " ++ canonicalize u ++ " was not discovered")) := by
  unfold node info
  simp only [h]
  cases r.index.byUuid.find? (canonicalize u) <;> rfl

/-- The record of a node is that of the machine that the index holds, if the node is in the cluster. -/
theorem node_eq_ok_iff (h : r.index.Sound) {u : String} {x : NodeRecord} :
    r.node u = .ok x ↔ ∃ i, r.Active i ∧ i.uuid = canonicalize u ∧ i.record = x := by
  unfold Active Index.Holds
  cases hregistered : r.registered.contains (canonicalize u) with
  | false =>
    rw [node_of_not_registered hregistered]
    constructor
    · intro hok
      cases hok
    · rintro ⟨i, ⟨hin, -⟩, hu, -⟩
      rw [hu, hregistered] at hin
      cases hin
  | true =>
    rw [node_of_registered hregistered]
    cases hfind : r.index.byUuid.find? (canonicalize u) with
    | none =>
      constructor
      · intro hok
        cases hok
      · rintro ⟨i, ⟨-, hheld⟩, hu, -⟩
        rw [hu, hfind] at hheld
        cases hheld
    | some i =>
      have hi : i.uuid = canonicalize u := h.keyed _ i hfind
      constructor
      · intro hok
        refine ⟨i, ⟨?_, ?_⟩, hi, Except.ok.inj hok⟩
        · rw [hi, hregistered]
        · rw [hi, hfind]
      · rintro ⟨j, ⟨-, hheld⟩, hu, rfl⟩
        rw [hu, hfind] at hheld
        cases hheld
        rfl

theorem node_eq_ok_or_error (r : Registry) (u : String) :
    (∃ x, r.node u = .ok x) ∨ ∃ text, r.node u = .error (.vmNotFound text) := by
  cases hregistered : r.registered.contains (canonicalize u) with
  | false => exact .inr ⟨_, node_of_not_registered hregistered⟩
  | true =>
    rw [node_of_registered hregistered]
    cases r.index.byUuid.find? (canonicalize u) with
    | none => exact .inr ⟨_, rfl⟩
    | some i => exact .inl ⟨i.record, rfl⟩

/-! ## Exports -/

theorem exportNodes_eq_ok (h : r.index.Sound) {s d : String} {xs : List NodeRecord}
    (hxs : r.exportNodes s d = .ok xs) :
    (xs.Pairwise fun x y => x.rank < y.rank) ∧
      ∀ x, x ∈ xs ↔ ∃ i, r.Active i ∧ i.Within s d ∧ i.record = x := by
  unfold exportNodes at hxs
  cases hselect : r.index.select s d with
  | error e =>
    rw [hselect] at hxs
    cases hxs
  | ok is =>
    rw [hselect] at hxs
    cases hxs
    obtain ⟨hlisted, hmem⟩ := h.select_eq_ok hselect
    constructor
    · rw [List.pairwise_map]
      exact (hlisted.filter _).imp NodeInfo.rank_record_lt
    · intro x
      simp only [List.mem_map, List.mem_filter, hmem, Active]
      constructor
      · rintro ⟨i, ⟨⟨hheld, hwithin⟩, hregistered⟩, rfl⟩
        exact ⟨i, ⟨hregistered, hheld⟩, hwithin, rfl⟩
      · rintro ⟨i, ⟨hregistered, hheld⟩, hwithin, rfl⟩
        exact ⟨i, ⟨⟨hheld, hwithin⟩, hregistered⟩, rfl⟩

theorem exportNodes_of_select_error {s d : String} {e : Error}
    (h : r.index.select s d = .error e) : r.exportNodes s d = .error e := by
  unfold exportNodes
  rw [h]
  rfl

/-- An export of an endpoint is a part of the whole export. -/
theorem exportNodes_eq_filter (h : r.index.Sound) {s d d' : String} {xs : List NodeRecord}
    (hs : s ≠ "") (hxs : r.exportNodes "" d' = .ok xs) (hselect : ∃ is, r.index.select s d = .ok is) :
    r.exportNodes s d = .ok (xs.filter (NodeRecord.of s d)) := by
  obtain ⟨is, his⟩ := hselect
  have hys : r.exportNodes s d =
      .ok ((is.filter fun i => r.registered.contains i.uuid).map NodeInfo.record) := by
    unfold exportNodes
    rw [his]
    rfl
  obtain ⟨hsorted, hmem⟩ := exportNodes_eq_ok h hxs
  obtain ⟨hsorted', hmem'⟩ := exportNodes_eq_ok h hys
  rw [hys]
  congr 1
  -- Both lists are in the same order, so that only their members have to be compared.
  have hanti : Std.Antisymm fun x y : NodeRecord => x.rank < y.rank :=
    ⟨fun x y hxy hyx => absurd hxy (List.lt_asymm hyx)⟩
  have hirrefl : Std.Irrefl fun x y : NodeRecord => x.rank < y.rank :=
    ⟨fun x => List.lt_irrefl _⟩
  refine List.Pairwise.eq_of_mem_iff hsorted' (hsorted.filter _) fun x => ?_
  rw [hmem', List.mem_filter, hmem]
  constructor
  · rintro ⟨i, hactive, hwithin, rfl⟩
    refine ⟨⟨i, hactive, .inl rfl, rfl⟩, ?_⟩
    rw [NodeRecord.of, decide_eq_true_iff]
    exact hwithin.resolve_left hs
  · rintro ⟨⟨i, hactive, -, rfl⟩, hof⟩
    rw [NodeRecord.of, decide_eq_true_iff] at hof
    exact ⟨i, hactive, .inr hof, rfl⟩

/-- In an export, every UUID stands once that is both in the cluster and in the index. -/
theorem count_uuid_eq (h : r.index.Sound) {d : String} {xs : List NodeRecord}
    (hxs : r.exportNodes "" d = .ok xs) (u : String) :
    (xs.map NodeRecord.uuid).count u =
      if r.registered.contains u = true ∧ r.index.byUuid.contains u = true then 1 else 0 := by
  obtain ⟨hsorted, hmem⟩ := exportNodes_eq_ok h hxs
  have hnodup : (xs.map NodeRecord.uuid).Nodup := by
    rw [List.Nodup, List.pairwise_map]
    refine hsorted.imp_of_mem fun {x y} hx hy hlt heq => ?_
    obtain ⟨i, ⟨-, hi⟩, -, rfl⟩ := (hmem x).mp hx
    obtain ⟨j, ⟨-, hj⟩, -, rfl⟩ := (hmem y).mp hy
    have huuid : i.uuid = j.uuid := heq
    rw [Index.Holds, huuid, hj] at hi
    cases hi
    exact List.lt_irrefl _ hlt
  rw [hnodup.count]
  refine if_congr ?_ rfl rfl
  rw [List.mem_map]
  constructor
  · rintro ⟨x, hx, rfl⟩
    obtain ⟨i, ⟨hregistered, hheld⟩, -, rfl⟩ := (hmem x).mp hx
    refine ⟨hregistered, ?_⟩
    rw [Dict.contains_eq]
    exact Option.isSome_iff_exists.mpr ⟨i, hheld⟩
  · rintro ⟨hregistered, hindexed⟩
    rw [Dict.contains_eq] at hindexed
    obtain ⟨i, hi⟩ := Option.isSome_iff_exists.mp hindexed
    obtain rfl := h.keyed u i hi
    exact ⟨i.record, (hmem _).mpr ⟨i, ⟨hregistered, hi⟩, .inl rfl, rfl⟩, rfl⟩

/-- Without an endpoint, everything is exported: each node in the cluster whose machine is in the index,
once and in order. A node that is asked for by its UUID has the record of the export. What is exported
of an endpoint or of one of its datacenters is the part of the export that belongs to it, provided that
the index holds some machine there, whether its node is in the cluster or not. -/
theorem export_agrees_with_node (h : Atlas.Reachable a r) :
    ∃ xs, (∀ d, r.exportNodes "" d = .ok xs) ∧
      (xs.Pairwise fun x y => x.rank < y.rank) ∧
      (∀ x, x ∈ xs ↔ ∃ i, r.Active i ∧ i.record = x) ∧
      (∀ u, (xs.map NodeRecord.uuid).count u =
        if r.registered.contains u = true ∧ r.index.byUuid.contains u = true then 1 else 0) ∧
      (∀ u x, r.node u = .ok x ↔ x ∈ xs ∧ x.uuid = canonicalize u) ∧
      (∀ u, (∃ x, r.node u = .ok x) ∨ ∃ text, r.node u = .error (.vmNotFound text)) ∧
      ∀ s, s ≠ "" →
        ((∀ i, r.index.Holds i → i.place.server ≠ s) →
          ∀ d, r.exportNodes s d = .error (.endpointNotFound s)) ∧
        ∀ i, r.index.Holds i → i.place.server = s →
          r.exportNodes s "" = .ok (xs.filter (NodeRecord.of s "")) ∧
          ∀ d, d ≠ "" →
            ((∀ j, r.index.Holds j → j.place.server = s → j.place.datacenter.name ≠ d) →
              r.exportNodes s d = .error (.datacenterNotFound d)) ∧
            ∀ j, r.index.Holds j → j.place.server = s → j.place.datacenter.name = d →
              r.exportNodes s d = .ok (xs.filter (NodeRecord.of s d)) := by
  have hsound : r.index.Sound := Atlas.sound_of_reachable h
  obtain ⟨xs, hxs⟩ : ∃ xs, ∀ d, r.exportNodes "" d = .ok xs := ⟨_, fun d => rfl⟩
  obtain ⟨hsorted, hmem⟩ := exportNodes_eq_ok hsound (hxs "")
  have hactive (x : NodeRecord) : x ∈ xs ↔ ∃ i, r.Active i ∧ i.record = x := by
    rw [hmem]
    simp [NodeInfo.Within]
  refine ⟨xs, hxs, hsorted, hactive, count_uuid_eq hsound (hxs ""), fun u x => ?_, node_eq_ok_or_error r,
    fun s hs => ⟨fun hnone d => ?_, fun i hi hserver => ⟨?_, fun d hd => ?_⟩⟩⟩
  · rw [node_eq_ok_iff hsound, hactive]
    constructor
    · rintro ⟨i, hi, hu, rfl⟩
      exact ⟨⟨i, hi, rfl⟩, hu⟩
    · rintro ⟨⟨i, hi, rfl⟩, hu⟩
      exact ⟨i, hi, hu, rfl⟩
  · exact exportNodes_of_select_error (hsound.select_unknown hs hnone d)
  · exact exportNodes_eq_filter hsound hs (hxs "") (hsound.select_endpoint hi hserver)
  · obtain ⟨hunknown, hknown⟩ := hsound.select_datacenter hi hserver hs hd
    refine ⟨fun hnone => ?_, fun j hj hjs hjd => ?_⟩
    · exact exportNodes_of_select_error (hunknown hnone)
    · exact exportNodes_eq_filter hsound hs (hxs "") (hknown j hj hjs hjd)

/-- Two nodes of the fleet join, and one of them leaves again. -/
def departed : Registry :=
  ⟨.ofList [fleet.describe (workerFound "4210a1b2"), fleet.describe (workerFound "4210c3d4")],
    .ofList [("4210c3d4", ⟨some "node-b", some "4210C3D4"⟩)]⟩

/-- The node that has left is in no export, its endpoint and its datacenter are known, and others are
not. -/
theorem export_agrees_with_node_departed :
    departed.node " 4210C3D4" = .ok (fleet.describe (workerFound "4210c3d4")).record ∧
      (∃ text, departed.node "4210a1b2" = .error (.vmNotFound text)) ∧
      departed.exportNodes "10.0.0.1" "DC1" =
        .ok [(fleet.describe (workerFound "4210c3d4")).record] ∧
      departed.exportNodes "10.0.0.1" "DC2" = .error (.datacenterNotFound "DC2") ∧
      departed.exportNodes "10.0.0.2" "DC1" = .error (.endpointNotFound "10.0.0.2") := by
  have hrun : (fleet.performAll {} [.register ⟨some "node-a", some "4210A1B2"⟩,
        .register ⟨some "node-b", some "4210C3D4"⟩, .unregister ⟨some "node-a", some "4210A1B2"⟩]).Yields
      [⟨.find .uuid "4210a1b2", .ok (workerFound "4210a1b2")⟩,
        ⟨.find .uuid "4210c3d4", .ok (workerFound "4210c3d4")⟩] departed :=
    .call _ (.call _ (.ret _))
  obtain ⟨xs, hall, -, -, -, hnode, hfailure, hplaces⟩ :=
    export_agrees_with_node (Atlas.reachable_of_performAll .empty hrun)
  have hwhole : departed.exportNodes "" "" =
      .ok [(fleet.describe (workerFound "4210c3d4")).record] := by
    decide +kernel
  obtain rfl := Except.ok.inj ((hall "").symm.trans hwhole)
  have hplace (i : NodeInfo) (hi : departed.index.Holds i) :
      i.place.server = "10.0.0.1" ∧ i.place.datacenter.name = "DC1" := by
    have hevery : ∀ i ∈ departed.index.byUuid.values,
        i.place.server = "10.0.0.1" ∧ i.place.datacenter.name = "DC1" := by
      decide +kernel
    exact hevery i (Dict.mem_values_iff.mpr ⟨_, hi⟩)
  have hheld : departed.index.Holds (fleet.describe (workerFound "4210a1b2")) := by
    rw [Index.Holds]
    decide +kernel
  obtain ⟨-, hknown⟩ := hplaces "10.0.0.1" (by decide)
  obtain ⟨-, hdatacenters⟩ := hknown _ hheld rfl
  refine ⟨(hnode _ _).mpr ⟨List.mem_singleton_self _, by decide +kernel⟩, ?_, ?_, ?_, ?_⟩
  · refine (hfailure "4210a1b2").resolve_left ?_
    rintro ⟨x, hx⟩
    obtain ⟨hmem, huuid⟩ := (hnode _ _).mp hx
    rw [List.mem_singleton.mp hmem] at huuid
    exact absurd huuid (by decide +kernel)
  · refine ((hdatacenters "DC1" (by decide)).2 _ hheld rfl rfl).trans ?_
    decide +kernel
  · refine (hdatacenters "DC2" (by decide)).1 fun i hi _ hdatacenter => ?_
    rw [(hplace i hi).2] at hdatacenter
    exact absurd hdatacenter (by decide)
  · refine (hplaces "10.0.0.2" (by decide)).1 (fun i hi hserver => ?_) "DC1"
    rw [(hplace i hi).1] at hserver
    exact absurd hserver (by decide)

end Registry

end NodeAtlas
