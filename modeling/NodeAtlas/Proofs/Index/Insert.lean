import Mathlib.Data.List.Induction
import Mathlib.Logic.ExistsUnique
import NodeAtlas.Proofs.Index.Tree

/-!
# Adding machines to the index

The index holds each machine three times: by UUID, by place and by name. What an addition does to
each of the look-ups is said once; from this follows what every index knows that was made by
additions, however machines move and change their names.
-/

namespace NodeAtlas.Index

/-- The index with further machines, added in their order. -/
def insertAll (x : Index) (is : List NodeInfo) : Index := is.foldl insert x

/-- The index of machines added in their order. -/
def ofList (is : List NodeInfo) : Index := insertAll {} is

/-- The three look-ups agree. -/
structure Sound (x : Index) : Prop where
  /-- A machine is held under its own UUID. -/
  keyed : ∀ u i, x.byUuid.find? u = some i → i.uuid = u
  /-- It is in the tree at its place, and nowhere else. -/
  placed : ∀ s d u i, x.tree.machineAt s d u = some i ↔
    x.byUuid.find? u = some i ∧ i.place.server = s ∧ i.place.datacenter.name = d
  /-- No endpoint and no datacenter is empty. -/
  pruned : x.tree.Pruned
  /-- A name leads to a machine of that name, as it is held under its UUID. -/
  named : ∀ n i, x.byName.find? n = some i → i.nodeName = n ∧ x.byUuid.find? i.uuid = some i

theorem sound_empty : ({} : Index).Sound where
  keyed _ _ h := by cases h
  placed s d u i := by
    have hnone : ({} : Index).tree.machineAt s d u = none := rfl
    rw [hnone]
    simp
  pruned _ _ h := by cases h
  named _ _ h := by cases h

/-! ## Look-ups after an addition -/

/-- The index without what it holds about a machine, except by UUID. -/
def cleared (x : Index) (i : NodeInfo) : Index :=
  match x.byUuid.find? i.uuid with
  | some previous => x.forget previous i.nodeName
  | none => x

theorem insert_eq (x : Index) (i : NodeInfo) :
    x.insert i =
      { tree := (x.cleared i).tree.add i
        byName := (x.cleared i).byName.insert i.nodeName i
        byUuid := (x.cleared i).byUuid.insert i.uuid i } := rfl

theorem byUuid_cleared (x : Index) (i : NodeInfo) : (x.cleared i).byUuid = x.byUuid := by
  unfold cleared
  split <;> rfl

theorem find?_byUuid_insert (x : Index) (i : NodeInfo) (u : String) :
    (x.insert i).byUuid.find? u = if u = i.uuid then some i else x.byUuid.find? u := by
  rw [insert_eq]
  simp only
  rw [byUuid_cleared, Dict.find?_insert]

variable {x : Index}

/-- What the tree holds at a place is what is held by UUID, if its place is this one. -/
theorem Sound.machineAt_eq (h : x.Sound) (s d u : String) :
    x.tree.machineAt s d u =
      (x.byUuid.find? u).filter fun i => i.place.server = s ∧ i.place.datacenter.name = d := by
  refine Option.ext fun i => ?_
  rw [h.placed, Option.filter_eq_some_iff, decide_eq_true_iff]

theorem Sound.machineAt_cleared (h : x.Sound) (i : NodeInfo) (s d u : String) :
    (x.cleared i).tree.machineAt s d u =
      if u = i.uuid then none else x.tree.machineAt s d u := by
  unfold cleared
  cases hprevious : x.byUuid.find? i.uuid with
  | none =>
    by_cases hu : u = i.uuid
    · rw [if_pos hu, h.machineAt_eq, hu, hprevious]
      rfl
    · rw [if_neg hu]
  | some previous =>
    have hkey : previous.uuid = i.uuid := h.keyed i.uuid previous hprevious
    simp only [forget]
    rw [Tree.machineAt_remove, hkey]
    by_cases hu : u = i.uuid
    · rw [if_pos hu]
      by_cases hsd : s = previous.place.server ∧ d = previous.place.datacenter.name
      · rw [if_pos ⟨hsd.1, hsd.2, hu⟩]
      · -- The machine that is held under the UUID is at another place.
        rw [if_neg fun hat => hsd ⟨hat.1, hat.2.1⟩, h.machineAt_eq, hu, hprevious]
        refine Option.filter_some_neg (decide_eq_false ?_)
        rintro ⟨hs, hd⟩
        exact hsd ⟨hs.symm, hd.symm⟩
    · rw [if_neg hu, if_neg fun hat => hu hat.2.2]

theorem Sound.pruned_cleared (h : x.Sound) (i : NodeInfo) : (x.cleared i).tree.Pruned := by
  unfold cleared
  split
  · exact Tree.pruned_remove h.pruned _ _ _
  · exact h.pruned

/-- An addition leaves the machine at its new place only. -/
theorem Sound.machineAt_insert (h : x.Sound) (i : NodeInfo) (s d u : String) :
    (x.insert i).tree.machineAt s d u =
      if u = i.uuid then
        if s = i.place.server ∧ d = i.place.datacenter.name then some i else none
      else x.tree.machineAt s d u := by
  rw [insert_eq]
  simp only
  rw [Tree.machineAt_add, h.machineAt_cleared]
  by_cases hu : u = i.uuid
  · simp [hu]
  · simp [hu]

/-- Another name than the new one is given up if it leads to the machine that is added. -/
theorem Sound.find?_byName_cleared (h : x.Sound) {i : NodeInfo} {n : String} (hn : n ≠ i.nodeName) :
    (x.cleared i).byName.find? n = (x.byName.find? n).filter fun j => j.uuid ≠ i.uuid := by
  cases hname : x.byName.find? n with
  | none =>
    unfold cleared
    split
    · simp only [forget]
      split
      · rw [Dict.find?_erase, hname]
        split <;> rfl
      · exact hname
    · exact hname
  | some j =>
    obtain ⟨hj, huuid⟩ := h.named n j hname
    by_cases hu : j.uuid = i.uuid
    · -- The name leads to the machine that is added, so this is the name that it had before.
      have hforget : (x.cleared i).byName = x.byName.erase n := by
        unfold cleared
        rw [← hu, huuid]
        simp only [forget]
        rw [hj, if_pos ⟨hn, by simp [hname]⟩]
      rw [hforget, Dict.find?_erase, if_pos rfl, Option.filter_some_neg (by simp [hu])]
    · rw [Option.filter_some_pos (by simpa using hu)]
      unfold cleared
      cases hprevious : x.byUuid.find? i.uuid with
      | none => exact hname
      | some previous =>
        simp only [forget]
        split
        · rename_i hold
          obtain ⟨-, hold⟩ := hold
          rw [Dict.find?_erase, hname, if_neg]
          intro heq
          rw [← heq, hname] at hold
          have hsame : j.uuid = previous.uuid := by simpa using hold
          exact hu (hsame.trans (h.keyed i.uuid previous hprevious))
        · exact hname

/-- An addition takes its name and gives up the name that the machine had before. -/
theorem Sound.find?_byName_insert (h : x.Sound) (i : NodeInfo) (n : String) :
    (x.insert i).byName.find? n =
      if n = i.nodeName then some i else (x.byName.find? n).filter fun j => j.uuid ≠ i.uuid := by
  rw [insert_eq]
  simp only
  rw [Dict.find?_insert]
  by_cases hn : n = i.nodeName
  · rw [if_pos hn, if_pos hn]
  · rw [if_neg hn, if_neg hn, h.find?_byName_cleared hn]

/-! ## Any number of additions -/

theorem Sound.insert (h : x.Sound) (i : NodeInfo) : (x.insert i).Sound where
  keyed u j hj := by
    rw [find?_byUuid_insert] at hj
    by_cases hu : u = i.uuid
    · rw [if_pos hu] at hj
      cases hj
      exact hu.symm
    · rw [if_neg hu] at hj
      exact h.keyed u j hj
  placed s d u j := by
    rw [h.machineAt_insert, find?_byUuid_insert]
    by_cases hu : u = i.uuid
    · rw [if_pos hu, if_pos hu]
      by_cases hsd : s = i.place.server ∧ d = i.place.datacenter.name
      · rw [if_pos hsd, hsd.1, hsd.2]
        constructor
        · intro hj
          cases hj
          exact ⟨rfl, rfl, rfl⟩
        · exact fun hj => hj.1
      · rw [if_neg hsd]
        constructor
        · intro hj
          cases hj
        · rintro ⟨hj, hs, hd⟩
          cases hj
          exact (hsd ⟨hs.symm, hd.symm⟩).elim
    · rw [if_neg hu, if_neg hu]
      exact h.placed s d u j
  pruned := Tree.pruned_add (h.pruned_cleared i) i
  named n j hj := by
    rw [h.find?_byName_insert] at hj
    rw [find?_byUuid_insert]
    by_cases hn : n = i.nodeName
    · rw [if_pos hn] at hj
      cases hj
      exact ⟨hn.symm, if_pos rfl⟩
    · rw [if_neg hn] at hj
      obtain ⟨hj, hu⟩ := Option.filter_eq_some_iff.mp hj
      obtain ⟨hname, huuid⟩ := h.named n j hj
      exact ⟨hname, by rwa [if_neg (by simpa using hu)]⟩

theorem insertAll_append (x : Index) (is js : List NodeInfo) :
    x.insertAll (is ++ js) = (x.insertAll is).insertAll js := List.foldl_append

theorem insertAll_concat (x : Index) (is : List NodeInfo) (i : NodeInfo) :
    x.insertAll (is ++ [i]) = (x.insertAll is).insert i := insertAll_append x is [i]

theorem Sound.insertAll (h : x.Sound) (is : List NodeInfo) : (x.insertAll is).Sound := by
  induction is using List.reverseRecOn with
  | nil => exact h
  | append_singleton is i ih =>
    rw [insertAll_concat]
    exact ih.insert i

/-- Under a UUID the index holds the last machine that was added with it. -/
theorem find?_byUuid_insertAll (x : Index) (is : List NodeInfo) (u : String) :
    (x.insertAll is).byUuid.find? u =
      (is.filter fun i => i.uuid = u).getLast?.or (x.byUuid.find? u) := by
  induction is using List.reverseRecOn with
  | nil => rfl
  | append_singleton is i ih =>
    rw [insertAll_concat, find?_byUuid_insert, List.filter_append, ih]
    by_cases hu : u = i.uuid
    · rw [if_pos hu, List.filter_cons_of_pos (by simp [hu]), List.filter_nil, List.getLast?_concat]
      rfl
    · rw [if_neg hu, List.filter_cons_of_neg (by simp [Ne.symm hu]), List.filter_nil,
        List.append_nil]

/-- Additions remove no UUID. -/
theorem contains_byUuid_insertAll_iff {x : Index} {is : List NodeInfo} {u : String} :
    (x.insertAll is).byUuid.contains u = true ↔
      (∃ i ∈ is, i.uuid = u) ∨ x.byUuid.contains u = true := by
  rw [Dict.contains_eq, Dict.contains_eq, find?_byUuid_insertAll, Option.isSome_or, Bool.or_eq_true,
    List.getLast?_isSome]
  simp

theorem sound_ofList (is : List NodeInfo) : (ofList is).Sound := sound_empty.insertAll is

theorem find?_byUuid_ofList (is : List NodeInfo) (u : String) :
    (ofList is).byUuid.find? u = (is.filter fun i => i.uuid = u).getLast? := by
  rw [ofList, find?_byUuid_insertAll]
  exact Option.or_none

theorem ofList_concat (is : List NodeInfo) (i : NodeInfo) :
    ofList (is ++ [i]) = (ofList is).insert i := insertAll_concat {} is i

/-- Under a name it holds the last machine that was added with it, unless that machine was added
under another name later. -/
theorem find?_byName_ofList_iff {is : List NodeInfo} {n : String} {j : NodeInfo} :
    (ofList is).byName.find? n = some j ↔
      (is.filter fun i => i.nodeName = n).getLast? = some j ∧
        (ofList is).byUuid.find? j.uuid = some j := by
  induction is using List.reverseRecOn generalizing j with
  | nil =>
    constructor
    · intro h
      cases h
    · rintro ⟨h, -⟩
      cases h
  | append_singleton is i ih =>
    rw [ofList_concat, (sound_ofList is).find?_byName_insert, find?_byUuid_insert,
      List.filter_append]
    by_cases hn : n = i.nodeName
    · rw [if_pos hn, List.filter_cons_of_pos (by simp [hn]), List.filter_nil, List.getLast?_concat]
      constructor
      · intro h
        cases h
        exact ⟨rfl, if_pos rfl⟩
      · exact fun h => h.1
    · rw [if_neg hn, List.filter_cons_of_neg (by simp [Ne.symm hn]), List.filter_nil,
        List.append_nil, Option.filter_eq_some_iff, ih]
      constructor
      · rintro ⟨⟨hlast, huuid⟩, hu⟩
        exact ⟨hlast, by rwa [if_neg (by simpa using hu)]⟩
      · rintro ⟨hlast, huuid⟩
        by_cases hu : j.uuid = i.uuid
        · -- The machine added now has another name.
          rw [if_pos hu] at huuid
          cases huuid
          obtain ⟨-, hname⟩ := List.mem_filter.mp (List.mem_of_getLast? hlast)
          exact (hn (of_decide_eq_true hname).symm).elim
        · rw [if_neg hu] at huuid
          exact ⟨⟨hlast, huuid⟩, by simpa using hu⟩

/-- An index made by additions is sound and holds, under a UUID, the last machine that was added with
it, at one place of the tree. A further addition removes no UUID and changes the look-ups of its own
UUID only. -/
theorem latest_at_one_place (is : List NodeInfo) :
    (ofList is).Sound ∧
    (∀ u, (ofList is).byUuid.find? u = (is.filter fun i => i.uuid = u).getLast?) ∧
    (∀ u, (ofList is).byUuid.contains u = true →
      ∃! p : String × String, ((ofList is).tree.machineAt p.1 p.2 u).isSome = true) ∧
    ∀ i,
      (∀ u, (ofList is).byUuid.contains u = true →
        ((ofList is).insert i).byUuid.contains u = true) ∧
      ∀ u, u ≠ i.uuid →
        ((ofList is).insert i).byUuid.find? u = (ofList is).byUuid.find? u ∧
        ∀ s d, ((ofList is).insert i).tree.machineAt s d u = (ofList is).tree.machineAt s d u := by
  have hsound := sound_ofList is
  refine ⟨hsound, find?_byUuid_ofList is, ?_, ?_⟩
  · intro u hu
    rw [Dict.contains_eq] at hu
    obtain ⟨i, hi⟩ := Option.isSome_iff_exists.mp hu
    refine ⟨(i.place.server, i.place.datacenter.name), ?_, ?_⟩
    · have hat := (hsound.placed _ _ u i).mpr ⟨hi, rfl, rfl⟩
      simp only
      rw [hat]
      rfl
    · rintro ⟨s, d⟩ hp
      obtain ⟨j, hj⟩ := Option.isSome_iff_exists.mp hp
      obtain ⟨huuid, hs, hd⟩ := (hsound.placed s d u j).mp hj
      rw [hi] at huuid
      cases huuid
      rw [hs, hd]
  · intro i
    refine ⟨?_, ?_⟩
    · intro u hu
      rw [Dict.contains_eq] at hu
      rw [Dict.contains_eq, find?_byUuid_insert]
      by_cases heq : u = i.uuid
      · rw [if_pos heq]
        rfl
      · rwa [if_neg heq]
    · intro u hu
      refine ⟨by rw [find?_byUuid_insert, if_neg hu], fun s d => ?_⟩
      rw [hsound.machineAt_insert, if_neg hu]

/-- A machine of the given UUID and name in a datacenter of an endpoint. -/
def machineIn (server datacenter uuid nodeName : String) : NodeInfo :=
  { place := ⟨server, server, ⟨datacenter, datacenter, server⟩⟩
    machine := ⟨uuid, nodeName, [], 4, 8192, "", none⟩
    uuid := uuid
    nodeName := nodeName
    instanceType := ""
    addresses := [] }

/-- Of two machines, one moves to another endpoint under another name. -/
def moved : List NodeInfo :=
  [machineIn "10.0.0.1" "DC1" "a" "node-a", machineIn "10.0.0.1" "DC2" "b" "node-b",
    machineIn "10.0.0.2" "DC1" "b" "node-b2"]

/-- The machine that has moved is at its new place only; when a third machine takes its new name, it
stays there. -/
theorem latest_at_one_place_moved :
    (ofList moved).byUuid.find? "b" = some (machineIn "10.0.0.2" "DC1" "b" "node-b2") ∧
    (∃! p : String × String, ((ofList moved).tree.machineAt p.1 p.2 "b").isSome = true) ∧
    ((ofList moved).insert (machineIn "10.0.0.2" "DC1" "c" "node-b2")).byUuid.contains "b" = true ∧
    ((ofList moved).insert (machineIn "10.0.0.2" "DC1" "c" "node-b2")).tree.machineAt
      "10.0.0.2" "DC1" "b" = some (machineIn "10.0.0.2" "DC1" "b" "node-b2") := by
  obtain ⟨hsound, hlatest, hplace, hother⟩ := latest_at_one_place moved
  have hb : (ofList moved).byUuid.find? "b" = some (machineIn "10.0.0.2" "DC1" "b" "node-b2") := by
    rw [hlatest]
    rfl
  have hcontains : (ofList moved).byUuid.contains "b" = true := by
    rw [Dict.contains_eq, hb]
    rfl
  obtain ⟨hkept, hsame⟩ := hother (machineIn "10.0.0.2" "DC1" "c" "node-b2")
  refine ⟨hb, hplace "b" hcontains, hkept "b" hcontains, ?_⟩
  rw [(hsame "b" (by decide)).2, hsound.placed]
  exact ⟨hb, rfl, rfl⟩

end NodeAtlas.Index
