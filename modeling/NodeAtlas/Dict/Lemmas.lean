import Mathlib.Data.List.Induction
import Mathlib.Data.List.Nodup
import NodeAtlas.Dict

/-!
# Look-ups in dictionaries

What every operation on dictionaries does to look-ups. As a dictionary is determined by its
look-ups, nothing else has to be known about it.
-/

namespace NodeAtlas.Dict

variable {α β : Type}

/-! ## Entries -/

theorem mem_insertEntry_iff {k : String} {v : α} {es : List (String × α)}
    (h : es.Pairwise fun a b => a.1 < b.1) {x : String × α} :
    x ∈ insertEntry k v es ↔ x = (k, v) ∨ x ∈ es ∧ x.1 ≠ k := by
  induction es with
  | nil => simp [insertEntry]
  | cons e es ih =>
    obtain ⟨he, hes⟩ := List.pairwise_cons.mp h
    unfold insertEntry
    split
    · rename_i hlt
      have hne : ∀ y ∈ e :: es, y.1 ≠ k := fun y hy hk => by
        rcases List.mem_cons.mp hy with rfl | hy
        · exact String.lt_irrefl k (hk ▸ hlt)
        · exact String.lt_irrefl k (hk ▸ (String.lt_trans hlt (he y hy) : k < y.1))
      constructor
      · intro hx
        rcases List.mem_cons.mp hx with rfl | hx
        · exact .inl rfl
        · exact .inr ⟨hx, hne x hx⟩
      · rintro (rfl | ⟨hx, _⟩)
        · exact List.mem_cons_self
        · exact List.mem_cons_of_mem _ hx
    · rename_i hnlt
      split
      · rename_i hlt
        rw [List.mem_cons, ih hes, List.mem_cons]
        constructor
        · rintro (rfl | rfl | ⟨hx, hk⟩)
          · exact .inr ⟨.inl rfl, fun hk => String.lt_irrefl k (hk ▸ hlt)⟩
          · exact .inl rfl
          · exact .inr ⟨.inr hx, hk⟩
        · rintro (rfl | ⟨rfl | hx, hk⟩)
          · exact .inr (.inl rfl)
          · exact .inl rfl
          · exact .inr (.inr ⟨hx, hk⟩)
      · rename_i hngt
        have heq : e.1 = k := String.le_antisymm
          (Decidable.not_not.mp fun hc => hnlt (by simpa using hc))
          (Decidable.not_not.mp fun hc => hngt (by simpa using hc))
        rw [List.mem_cons, List.mem_cons]
        constructor
        · rintro (rfl | hx)
          · exact .inl rfl
          · exact .inr ⟨.inr hx, fun hk => String.lt_irrefl k (by
              have := he x hx
              rwa [heq, hk] at this)⟩
        · rintro (rfl | ⟨rfl | hx, hk⟩)
          · exact .inl rfl
          · exact absurd heq hk
          · exact .inr hx

theorem eq_of_mem_entries {d : Dict α} {k : String} {v w : α} (hv : (k, v) ∈ d.entries)
    (hw : (k, w) ∈ d.entries) : v = w := by
  obtain ⟨es, hes⟩ := d
  simp only at hv hw
  induction es with
  | nil => simp at hv
  | cons e es ih =>
    obtain ⟨he, hes⟩ := List.pairwise_cons.mp hes
    rcases List.mem_cons.mp hv with hv | hv <;> rcases List.mem_cons.mp hw with hw | hw
    · rw [← hv] at hw
      exact (Prod.mk.inj hw).2.symm
    · have hlt : e.1 < k := he _ hw
      rw [← hv] at hlt
      exact (String.lt_irrefl k hlt).elim
    · have hlt : e.1 < k := he _ hv
      rw [← hw] at hlt
      exact (String.lt_irrefl k hlt).elim
    · exact ih hes hv hw

theorem find?_eq_some_iff {d : Dict α} {k : String} {v : α} :
    d.find? k = some v ↔ (k, v) ∈ d.entries := by
  unfold find?
  constructor
  · intro h
    obtain ⟨e, he, rfl⟩ := Option.map_eq_some_iff.mp h
    have hk : e.1 = k := by simpa using List.find?_some he
    exact hk ▸ List.mem_of_find?_eq_some he
  · intro h
    have hsome : (d.entries.find? fun e => e.1 == k).isSome := by
      rw [List.find?_isSome]
      exact ⟨(k, v), h, by simp⟩
    obtain ⟨e, he⟩ := Option.isSome_iff_exists.mp hsome
    have hk : e.1 = k := by simpa using List.find?_some he
    have hmem : (k, e.2) ∈ d.entries := hk ▸ List.mem_of_find?_eq_some he
    rw [he, Option.map_some, eq_of_mem_entries hmem h]

theorem find?_eq_none_iff {d : Dict α} {k : String} :
    d.find? k = none ↔ ∀ v, (k, v) ∉ d.entries := by
  constructor
  · intro h v hv
    rw [find?_eq_some_iff.mpr hv] at h
    cases h
  · intro h
    cases hv : d.find? k with
    | none => rfl
    | some v => exact absurd (find?_eq_some_iff.mp hv) (h v)

/-! ## Operations -/

@[simp] theorem find?_empty (k : String) : (∅ : Dict α).find? k = none := rfl

theorem contains_eq (d : Dict α) (k : String) : d.contains k = (d.find? k).isSome := by
  cases h : d.find? k with
  | none =>
    rw [Option.isSome_none, contains, List.any_eq_false]
    intro e he hk
    exact find?_eq_none_iff.mp h e.2 (by
      have : e.1 = k := by simpa using hk
      exact this ▸ he)
  | some v =>
    rw [Option.isSome_some, contains, List.any_eq_true]
    exact ⟨(k, v), find?_eq_some_iff.mp h, by simp⟩

theorem mem_keys_iff {d : Dict α} {k : String} : k ∈ d.keys ↔ d.contains k = true := by
  simp [keys, contains]

theorem find?_insert (d : Dict α) (k : String) (v : α) (k' : String) :
    (d.insert k v).find? k' = if k' = k then some v else d.find? k' := by
  split
  · rename_i h
    subst h
    exact find?_eq_some_iff.mpr ((mem_insertEntry_iff d.ordered).mpr (.inl rfl))
  · rename_i hne
    cases h : d.find? k' with
    | none =>
      refine find?_eq_none_iff.mpr fun w hw => ?_
      rcases (mem_insertEntry_iff d.ordered).mp hw with h' | ⟨h', _⟩
      · exact hne (Prod.mk.inj h').1
      · exact find?_eq_none_iff.mp h w h'
    | some w =>
      exact find?_eq_some_iff.mpr
        ((mem_insertEntry_iff d.ordered).mpr (.inr ⟨find?_eq_some_iff.mp h, hne⟩))

@[simp] theorem find?_insert_self (d : Dict α) (k : String) (v : α) :
    (d.insert k v).find? k = some v := by
  rw [find?_insert, if_pos rfl]

theorem find?_insert_of_ne (d : Dict α) {k k' : String} (v : α) (h : k' ≠ k) :
    (d.insert k v).find? k' = d.find? k' := by
  rw [find?_insert, if_neg h]

theorem mem_erase_iff {d : Dict α} {k : String} {e : String × α} :
    e ∈ (d.erase k).entries ↔ e ∈ d.entries ∧ e.1 ≠ k := by
  simp [erase]

theorem find?_erase (d : Dict α) (k k' : String) :
    (d.erase k).find? k' = if k' = k then none else d.find? k' := by
  split
  · rename_i h
    exact find?_eq_none_iff.mpr fun v hv => (mem_erase_iff.mp hv).2 h
  · rename_i hne
    cases h : d.find? k' with
    | none =>
      exact find?_eq_none_iff.mpr fun v hv => find?_eq_none_iff.mp h v (mem_erase_iff.mp hv).1
    | some v => exact find?_eq_some_iff.mpr (mem_erase_iff.mpr ⟨find?_eq_some_iff.mp h, hne⟩)

theorem contains_insert_iff {d : Dict α} {k k' : String} {v : α} :
    (d.insert k v).contains k' = true ↔ k' = k ∨ d.contains k' = true := by
  rw [contains_eq, contains_eq, find?_insert]
  by_cases hk : k' = k
  · simp [hk]
  · simp [hk]

theorem contains_erase_iff {d : Dict α} {k k' : String} :
    (d.erase k).contains k' = true ↔ k' ≠ k ∧ d.contains k' = true := by
  rw [contains_eq, contains_eq, find?_erase]
  by_cases hk : k' = k
  · simp [hk]
  · simp [hk]

theorem find?_map (f : α → β) (d : Dict α) (k : String) :
    (d.map f).find? k = (d.find? k).map f := by
  simp [find?, map, List.find?_map, Option.map_map, Function.comp_def]

@[simp] theorem contains_map (f : α → β) (d : Dict α) (k : String) :
    (d.map f).contains k = d.contains k := by
  rw [contains_eq, contains_eq, find?_map, Option.isSome_map]

@[simp] theorem keys_map (f : α → β) (d : Dict α) : (d.map f).keys = d.keys := by
  simp [keys, map]

theorem map_map {γ : Type} (f : α → β) (g : β → γ) (d : Dict α) :
    (d.map f).map g = d.map fun v => g (f v) := by
  simp [map, Function.comp_def]

theorem values_map (f : α → β) (d : Dict α) : (d.map f).values = d.values.map f := by
  simp [values, map]

theorem isEmpty_iff {d : Dict α} : d.isEmpty = true ↔ ∀ k, d.find? k = none := by
  rw [isEmpty, List.isEmpty_iff]
  constructor
  · intro h k
    exact find?_eq_none_iff.mpr fun v hv => by simp [h] at hv
  · intro h
    refine List.eq_nil_iff_forall_not_mem.mpr fun e he => ?_
    exact find?_eq_none_iff.mp (h e.1) e.2 he

theorem isEmpty_eq_false_iff {d : Dict α} : d.isEmpty = false ↔ ∃ k v, d.find? k = some v := by
  rw [Bool.eq_false_iff, Ne, isEmpty_iff, Classical.not_forall]
  simp only [← ne_eq, Option.ne_none_iff_exists']

@[simp] theorem isEmpty_insert (d : Dict α) (k : String) (v : α) :
    (d.insert k v).isEmpty = false := by
  cases h : (d.insert k v).isEmpty with
  | false => rfl
  | true =>
    have hnone := isEmpty_iff.mp h k
    rw [find?_insert_self] at hnone
    cases hnone

/-- Whatever holds of a new value and of all others holds of what is found. -/
theorem forall_find?_insert {P : α → Prop} {d : Dict α} (h : ∀ k e, d.find? k = some e → P e)
    {v : α} (hv : P v) {k k' : String} {e : α} (he : (d.insert k v).find? k' = some e) : P e := by
  rw [find?_insert] at he
  by_cases hk : k' = k
  · rw [if_pos hk] at he
    cases he
    exact hv
  · rw [if_neg hk] at he
    exact h k' e he

/-! ## Dictionaries of dictionaries -/

/-- Look-ups when an inner dictionary was replaced, or erased because nothing was left in it. -/
theorem bind_find?_prune (d : Dict (Dict α)) (k : String) (v : Dict α) (k' u : String) :
    ((if v.isEmpty then d.erase k else d.insert k v).find? k').bind (fun e => e.find? u) =
      if k' = k then v.find? u else (d.find? k').bind fun e => e.find? u := by
  by_cases hv : v.isEmpty = true
  · rw [if_pos hv, find?_erase]
    by_cases hk : k' = k
    · rw [if_pos hk, if_pos hk, isEmpty_iff.mp hv u]
      rfl
    · rw [if_neg hk, if_neg hk]
  · rw [if_neg hv, find?_insert]
    by_cases hk : k' = k
    · rw [if_pos hk, if_pos hk]
      rfl
    · rw [if_neg hk, if_neg hk]

theorem forall_find?_prune {P : Dict α → Prop} {d : Dict (Dict α)}
    (h : ∀ k e, d.find? k = some e → P e) {v : Dict α} (hv : v.isEmpty = false → P v)
    {k k' : String} {e : Dict α}
    (he : (if v.isEmpty then d.erase k else d.insert k v).find? k' = some e) : P e := by
  by_cases hempty : v.isEmpty = true
  · rw [if_pos hempty, find?_erase] at he
    by_cases hk : k' = k
    · rw [if_pos hk] at he
      cases he
    · rw [if_neg hk] at he
      exact h k' e he
  · rw [if_neg hempty] at he
    exact forall_find?_insert h (hv (by simpa using hempty)) he

/-! ## Contents -/

@[simp] theorem values_empty : (∅ : Dict α).values = [] := rfl

theorem mem_values_iff {d : Dict α} {v : α} : v ∈ d.values ↔ ∃ k, d.find? k = some v := by
  constructor
  · intro h
    obtain ⟨⟨k, w⟩, hmem, rfl⟩ := List.mem_map.mp h
    exact ⟨k, find?_eq_some_iff.mpr hmem⟩
  · rintro ⟨k, h⟩
    exact List.mem_map.mpr ⟨(k, v), find?_eq_some_iff.mp h, rfl⟩

/-- A new key adds an entry. -/
theorem perm_insertEntry {k : String} {es : List (String × α)} (v : α) (h : ∀ e ∈ es, e.1 ≠ k) :
    (insertEntry k v es).Perm ((k, v) :: es) := by
  induction es with
  | nil => exact .refl _
  | cons e es ih =>
    have hes := ih fun x hx => h x (List.mem_cons_of_mem _ hx)
    unfold insertEntry
    split
    · exact .refl _
    · rename_i hnlt
      split
      · exact (hes.cons e).trans (.swap ..)
      · rename_i hngt
        have heq : e.1 = k := String.le_antisymm
          (Decidable.not_not.mp fun hc => hnlt (by simpa using hc))
          (Decidable.not_not.mp fun hc => hngt (by simpa using hc))
        exact (h e List.mem_cons_self heq).elim

theorem perm_values_insert {d : Dict α} {k : String} (v : α) (h : d.contains k = false) :
    (d.insert k v).values.Perm (v :: d.values) := by
  refine (perm_insertEntry v fun e he hk => ?_).map Prod.snd
  rw [contains, List.any_eq_false] at h
  exact h e he (by simp [hk])

/-! ## Equality -/

theorem entries_eq_of_mem_iff {xs ys : List (String × α)} (hx : xs.Pairwise fun a b => a.1 < b.1)
    (hy : ys.Pairwise fun a b => a.1 < b.1) (h : ∀ e, e ∈ xs ↔ e ∈ ys) : xs = ys := by
  induction xs generalizing ys with
  | nil => exact (List.eq_nil_iff_forall_not_mem.mpr fun e he => by simpa using (h e).mpr he).symm
  | cons x xs ih =>
    cases ys with
    | nil => exact absurd ((h x).mp List.mem_cons_self) (by simp)
    | cons y ys =>
      obtain ⟨hx₁, hx₂⟩ := List.pairwise_cons.mp hx
      obtain ⟨hy₁, hy₂⟩ := List.pairwise_cons.mp hy
      have hxy : x = y := by
        rcases List.mem_cons.mp ((h x).mp List.mem_cons_self) with hxy | hxy
        · exact hxy
        · rcases List.mem_cons.mp ((h y).mpr List.mem_cons_self) with hyx | hyx
          · exact hyx.symm
          · exact absurd (String.lt_trans (hy₁ x hxy) (hx₁ y hyx)) (String.lt_irrefl _)
      subst hxy
      congr 1
      refine ih hx₂ hy₂ fun e => ⟨fun he => ?_, fun he => ?_⟩
      · rcases List.mem_cons.mp ((h e).mp (List.mem_cons_of_mem _ he)) with rfl | he'
        · exact absurd (hx₁ e he) (String.lt_irrefl _)
        · exact he'
      · rcases List.mem_cons.mp ((h e).mpr (List.mem_cons_of_mem _ he)) with rfl | he'
        · exact absurd (hy₁ e he) (String.lt_irrefl _)
        · exact he'

theorem ext_entries {a b : Dict α} (h : a.entries = b.entries) : a = b := by
  cases a
  cases b
  congr

/-- Dictionaries with the same look-ups are equal. -/
theorem ext_find? {a b : Dict α} (h : ∀ k, a.find? k = b.find? k) : a = b := by
  have he : a.entries = b.entries :=
    entries_eq_of_mem_iff a.ordered b.ordered fun e => by
      have := h e.1
      exact ⟨fun he => find?_eq_some_iff.mp (this ▸ find?_eq_some_iff.mpr he),
        fun he => find?_eq_some_iff.mp (this.symm ▸ find?_eq_some_iff.mpr he)⟩
  exact ext_entries he

theorem map_insert (f : α → β) (d : Dict α) (k : String) (v : α) :
    (d.insert k v).map f = (d.map f).insert k (f v) := by
  refine ext_find? fun k' => ?_
  rw [find?_map, find?_insert, find?_insert, find?_map]
  split
  · rfl
  · rfl

theorem keys_insert_congr {d d' : Dict α} (h : d.keys = d'.keys) (k : String) (v v' : α) :
    (d.insert k v).keys = (d'.insert k v').keys := by
  have hkeys (d : Dict α) : (d.map fun _ => ()).entries = d.keys.map fun k => (k, ()) := by
    simp [map, keys]
  have hunits : (d.map fun _ => ()) = d'.map fun _ => () :=
    ext_entries (by rw [hkeys, hkeys, h])
  rw [← keys_map (fun _ => ()), map_insert, hunits, ← map_insert, keys_map]

/-! ## Lists of pairs -/

theorem insertAll_cons (d : Dict α) (e : String × α) (es : List (String × α)) :
    d.insertAll (e :: es) = (d.insert e.1 e.2).insertAll es := rfl

/-- Of the pairs with a key, the last one counts; without any, the map stays as it is. -/
theorem find?_insertAll (d : Dict α) (es : List (String × α)) (k : String) :
    (d.insertAll es).find? k =
      (((es.filter fun e => e.1 = k).getLast?).map (·.2)).or (d.find? k) := by
  induction es using List.reverseRecOn with
  | nil => rfl
  | append_singleton es e ih =>
    have hconcat : d.insertAll (es ++ [e]) = (d.insertAll es).insert e.1 e.2 := List.foldl_append
    rw [hconcat, find?_insert, List.filter_append, ih]
    by_cases hk : k = e.1
    · rw [if_pos hk, List.filter_cons_of_pos (by simp [hk]), List.filter_nil, List.getLast?_concat]
      rfl
    · rw [if_neg hk, List.filter_cons_of_neg (by simp [Ne.symm hk]), List.filter_nil,
        List.append_nil]

/-- Storing the same pairs once more changes nothing. -/
theorem insertAll_insertAll (d : Dict α) (es : List (String × α)) :
    (d.insertAll es).insertAll es = d.insertAll es := by
  refine ext_find? fun k => ?_
  simp only [find?_insertAll]
  rw [← Option.or_assoc, Option.or_self]

theorem find?_ofList (es : List (String × α)) (k : String) :
    (ofList es).find? k = ((es.filter fun e => e.1 = k).getLast?).map (·.2) := by
  have hof : ofList es = (∅ : Dict α).insertAll es := rfl
  rw [hof, find?_insertAll, find?_empty, Option.or_none]

theorem mem_of_find?_ofList {es : List (String × α)} {k : String} {v : α}
    (h : (ofList es).find? k = some v) : (k, v) ∈ es := by
  rw [find?_ofList] at h
  obtain ⟨e, hlast, rfl⟩ := Option.map_eq_some_iff.mp h
  obtain ⟨hmem, hk⟩ := List.mem_filter.mp (List.mem_of_getLast? hlast)
  have hkey : e.1 = k := of_decide_eq_true hk
  rw [← hkey]
  exact hmem

/-- A pair is found if no other one has its key. -/
theorem find?_ofList_of_nodup {es : List (String × α)} (h : (es.map (·.1)).Nodup) {k : String}
    {v : α} (hmem : (k, v) ∈ es) : (ofList es).find? k = some v := by
  rw [find?_ofList]
  have hin : (k, v) ∈ es.filter fun e => e.1 = k := List.mem_filter.mpr ⟨hmem, by simp⟩
  cases hlast : (es.filter fun e => e.1 = k).getLast? with
  | none =>
    rw [List.getLast?_eq_none_iff.mp hlast] at hin
    cases hin
  | some e =>
    obtain ⟨he, hk⟩ := List.mem_filter.mp (List.mem_of_getLast? hlast)
    have heq : e = (k, v) := List.inj_on_of_nodup_map h he hmem (of_decide_eq_true hk)
    rw [heq]
    rfl

theorem find?_ofList_iff {es : List (String × α)} (h : (es.map (·.1)).Nodup) {k : String} {v : α} :
    (ofList es).find? k = some v ↔ (k, v) ∈ es :=
  ⟨mem_of_find?_ofList, find?_ofList_of_nodup h⟩

/-- The order of pairs with different keys does not matter. -/
theorem ofList_eq_of_perm {es fs : List (String × α)} (hperm : es.Perm fs)
    (h : (es.map (·.1)).Nodup) : ofList es = ofList fs := by
  have h' : (fs.map (·.1)).Nodup := (hperm.map _).nodup_iff.mp h
  refine ext_find? fun k => Option.ext fun v => ?_
  rw [find?_ofList_iff h, find?_ofList_iff h', hperm.mem_iff]

end NodeAtlas.Dict
