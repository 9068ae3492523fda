import NodeAtlas.Atlas.Index
import NodeAtlas.Dict.Lemmas

/-!
# The tree of machines

The tree is known by its look-ups: which machine is held under an endpoint, a datacenter and a UUID.
Removing and adding a machine change the look-up at its place and no other, and leave no endpoint and
no datacenter behind that holds nothing.
-/

namespace NodeAtlas.Tree

/-- The machine of a UUID in a datacenter of an endpoint. -/
def machineAt (t : Tree) (server datacenter uuid : String) : Option NodeInfo :=
  ((t.find? server).bind fun ds => ds.find? datacenter).bind fun ms => ms.find? uuid

/-- No endpoint is without datacenters, and no datacenter without machines. -/
def Pruned (t : Tree) : Prop :=
  ∀ server ds, t.find? server = some ds →
    ds.isEmpty = false ∧ ∀ datacenter ms, ds.find? datacenter = some ms → ms.isEmpty = false

/-! ## Removing -/

/-- The datacenters of an endpoint without the machine of a UUID in one of them. -/
def removeIn (ds : Dict (Dict NodeInfo)) (datacenter uuid : String) : Dict (Dict NodeInfo) :=
  match ds.find? datacenter with
  | none => ds
  | some ms =>
    if (ms.erase uuid).isEmpty then ds.erase datacenter else ds.insert datacenter (ms.erase uuid)

theorem remove_of_find? {t : Tree} {s : String} {ds : Dict (Dict NodeInfo)}
    (h : t.find? s = some ds) (d u : String) :
    t.remove s d u =
      if (removeIn ds d u).isEmpty then t.erase s else t.insert s (removeIn ds d u) := by
  unfold remove
  rw [h]
  rfl

theorem remove_of_find?_none {t : Tree} {s : String} (h : t.find? s = none) (d u : String) :
    t.remove s d u = t := by
  unfold remove
  rw [h]

theorem find?_removeIn (ds : Dict (Dict NodeInfo)) (d u d' u' : String) :
    ((removeIn ds d u).find? d').bind (fun ms => ms.find? u') =
      if d' = d ∧ u' = u then none else (ds.find? d').bind fun ms => ms.find? u' := by
  unfold removeIn
  cases hd : ds.find? d with
  | none =>
    by_cases h : d' = d ∧ u' = u
    · rw [if_pos h, h.1]
      simp only [hd, Option.bind_none]
    · rw [if_neg h]
  | some ms =>
    simp only
    rw [Dict.bind_find?_prune, Dict.find?_erase]
    by_cases hd' : d' = d
    · rw [if_pos hd', hd', hd]
      simp
    · rw [if_neg hd']
      simp [hd']

theorem machineAt_remove (t : Tree) (s d u s' d' u' : String) :
    (t.remove s d u).machineAt s' d' u' =
      if s' = s ∧ d' = d ∧ u' = u then none else t.machineAt s' d' u' := by
  cases hs : t.find? s with
  | none =>
    rw [remove_of_find?_none hs]
    by_cases h : s' = s ∧ d' = d ∧ u' = u
    · rw [if_pos h, machineAt, h.1, hs]
      rfl
    · rw [if_neg h]
  | some ds =>
    unfold machineAt
    rw [remove_of_find? hs, Dict.bind_find?_prune]
    by_cases hs' : s' = s
    · rw [if_pos hs', find?_removeIn, hs', hs]
      simp
    · rw [if_neg hs']
      simp [hs']

theorem pruned_remove {t : Tree} (h : t.Pruned) (s d u : String) : (t.remove s d u).Pruned := by
  cases hs : t.find? s with
  | none => rwa [remove_of_find?_none hs]
  | some ds =>
    rw [remove_of_find? hs]
    intro s' ds' hds'
    refine Dict.forall_find?_prune h (fun hne => ⟨hne, fun d' ms hms => ?_⟩) hds'
    -- What is left of the datacenters of this endpoint still has none without machines.
    obtain ⟨-, hmachines⟩ := h s ds hs
    unfold removeIn at hms
    cases hd : ds.find? d with
    | none =>
      simp only [hd] at hms
      exact hmachines d' ms hms
    | some ms₀ =>
      simp only [hd] at hms
      exact Dict.forall_find?_prune hmachines id hms

/-! ## Adding -/

theorem machineAt_add (t : Tree) (i : NodeInfo) (s d u : String) :
    (t.add i).machineAt s d u =
      if s = i.place.server ∧ d = i.place.datacenter.name ∧ u = i.uuid then some i
      else t.machineAt s d u := by
  unfold add machineAt
  rw [Dict.find?_insert]
  by_cases hs : s = i.place.server
  · rw [if_pos hs, Option.bind_some, Dict.find?_insert, hs]
    by_cases hd : d = i.place.datacenter.name
    · rw [if_pos hd, Option.bind_some, Dict.find?_insert, hd]
      cases t.find? i.place.server with
      | none => simp
      | some ds => cases hms : ds.find? i.place.datacenter.name <;> simp [hms]
    · rw [if_neg hd]
      cases t.find? i.place.server <;> simp [hd]
  · rw [if_neg hs]
    simp [hs]

theorem pruned_add {t : Tree} (h : t.Pruned) (i : NodeInfo) : (t.add i).Pruned := by
  intro s ds hds
  refine Dict.forall_find?_insert h ⟨Dict.isEmpty_insert _ _ _, fun d ms hms => ?_⟩ hds
  refine Dict.forall_find?_insert (P := fun ms => ms.isEmpty = false) (fun d' ms' hms' => ?_)
    (Dict.isEmpty_insert _ _ _) hms
  cases hs : t.find? i.place.server with
  | none =>
    rw [hs] at hms'
    cases hms'
  | some ds' =>
    rw [hs] at hms'
    exact (h _ ds' hs).2 d' ms' hms'

end NodeAtlas.Tree
