import NodeAtlas.Proofs.Config.Variables

/-!
# Sections from variables

Which sections the variables of an environment describe. They depend on the variables and the global
settings only, and not on the sections that were there before; of several ids that name one tenant the
last one counts.
-/

namespace NodeAtlas.Config

open NodeAtlas.Net

variable {env env' : Environment} {g : Global} {id tenant : String} {d d' : Dict Section}

/-! ## One section -/

/-- The port is the given one or the fallback. -/
theorem eq_getD_of_readPort {value : Option String} {fallback port : Option UInt16}
    (h : readPort value fallback = .ok port) :
    port = (value.bind fun v => (parsePort v).toOption.map some).getD fallback := by
  cases value with
  | none => exact (Except.ok.inj h).symm
  | some v =>
    change (parsePort v).map some = .ok port at h
    cases hv : parsePort v with
    | error e =>
      rw [hv] at h
      cases h
    | ok n =>
      rw [hv] at h
      obtain rfl := Except.ok.inj h
      simp [hv, Except.toOption]

/-- A section has what its variables give and otherwise what the global settings say. -/
theorem overlaid_of_sectionOf {s : Section} (h : sectionOf env g id = .ok s) :
    Overlaid Section.settings (env.field? id) (.inherited g) s := by
  unfold sectionOf at h
  dsimp only at h
  split at h
  · cases h
  · rename_i port hport
    obtain rfl := Except.ok.inj h
    intro x hx
    simp only [Section.settings, List.mem_cons, List.not_mem_nil, or_false] at hx
    rcases hx with rfl | rfl | rfl | rfl | rfl | rfl | rfl | rfl
    case inr.inr.inr.inl => exact eq_getD_of_readPort hport
    case inr.inr.inr.inr.inr.inr.inl =>
      dsimp only [Setting.secret, Section.inherited, Environment.field?, sectionVariable]
      cases env.value? ("ICENTER_" ++ id ++ "_" ++ "SECRET_NAME") <;>
        cases env.value? ("ICENTER_" ++ id ++ "_" ++ "SECRET_NAMESPACE") <;> rfl
    all_goals rfl

/-- The section of an id is determined by its own variables and the global settings. -/
theorem sectionOf_congr (h : ∀ f ∈ sectionFields, env.field? id f = env'.field? id f) :
    sectionOf env g id = sectionOf env' g id := by
  have heach : ∀ f ∈ sectionFields, env.value? ("ICENTER_" ++ id ++ "_" ++ f) =
      env'.value? ("ICENTER_" ++ id ++ "_" ++ f) := h
  simp only [sectionFields, List.forall_mem_cons] at heach
  obtain ⟨huser, hpassword, hserver, hport, hinsecure, hdatacenters, hname, hspace, hfamily, -⟩ :=
    heach
  unfold sectionOf
  simp only [huser, hpassword, hserver, hport, hinsecure, hdatacenters, hname, hspace, hfamily]

/-! ## All sections -/

/-- The ids that variables give to tenants, in the order of the variables. -/
def named (vars : List (String × String)) : List (String × String) :=
  vars.filterMap fun x => if x.2.isEmpty then none else (sectionId? x.1).map fun id => (id, x.2)

/-- The sections of ids with their tenants, up to the first bad port. -/
def sectionsOf (env : Environment) (g : Global) :
    List (String × String) → List (String × Section) × Except ValidationError Unit
  | [] => ([], .ok ())
  | x :: ids =>
    match sectionOf env g x.1 with
    | .error e => ([], .error e)
    | .ok s => ((x.2, s) :: (sectionsOf env g ids).1, (sectionsOf env g ids).2)

theorem overlaySections_eq (vars : List (String × String)) :
    overlaySections env g d vars =
      (d.insertAll (sectionsOf env g (named vars)).1, (sectionsOf env g (named vars)).2) := by
  induction vars generalizing d with
  | nil => rfl
  | cons x vars ih =>
    obtain ⟨name, tenant⟩ := x
    unfold overlaySections named
    cases hid : sectionId? name with
    | none =>
      rw [List.filterMap_cons_none (by simp [hid])]
      exact ih
    | some id =>
      dsimp only
      by_cases htenant : tenant.isEmpty = true
      · rw [if_pos htenant, List.filterMap_cons_none (by simp [htenant])]
        exact ih
      · rw [if_neg htenant, List.filterMap_cons_some (b := (id, tenant)) (by simp [hid, htenant])]
        unfold sectionsOf
        cases hs : sectionOf env g id with
        | error e => rfl
        | ok s => exact ih

theorem mem_named_iff : (id, tenant) ∈ named env.entries ↔ env.Names id tenant := by
  unfold named Environment.Names
  rw [List.mem_filterMap, value?_eq_some_iff, Dict.find?_eq_some_iff]
  constructor
  · rintro ⟨⟨name, v⟩, hmem, hx⟩
    by_cases hv : v.isEmpty = true
    · simp [hv] at hx
    · simp only [hv, Bool.false_eq_true, if_false, Option.map_eq_some_iff] at hx
      obtain ⟨id', hid, hpair⟩ := hx
      obtain ⟨rfl, rfl⟩ := Prod.mk.inj hpair
      obtain ⟨rfl, hne, hport⟩ := sectionId?_eq_some_iff.mp hid
      exact ⟨hne, hport, hmem, by simpa using hv⟩
  · rintro ⟨hne, hport, hmem, hv⟩
    refine ⟨_, hmem, ?_⟩
    have hid : sectionId? (tenantVariable id) = some id :=
      sectionId?_eq_some_iff.mpr ⟨rfl, hne, hport⟩
    simp [hid, hv]

/-- The ids come in the order of their variables. -/
theorem pairwise_named (env : Environment) :
    (named env.entries).Pairwise fun x y => tenantVariable x.1 < tenantVariable y.1 := by
  have hid : ∀ {x : String × String} {y : String × String},
      (if x.2.isEmpty then none else (sectionId? x.1).map fun id => (id, x.2)) = some y →
      x.1 = tenantVariable y.1 := by
    intro x y h
    split at h
    · cases h
    · obtain ⟨id, hid, rfl⟩ := Option.map_eq_some_iff.mp h
      exact (sectionId?_eq_some_iff.mp hid).1
  refine env.ordered.filterMap _ fun x y hxy x' hx' y' hy' => ?_
  rw [← hid hx', ← hid hy']
  exact hxy

theorem mem_sectionsOf {ids : List (String × String)} {y : String × Section}
    (h : y ∈ (sectionsOf env g ids).1) : ∃ x ∈ ids, x.2 = y.1 ∧ sectionOf env g x.1 = .ok y.2 := by
  induction ids with
  | nil => cases h
  | cons x ids ih =>
    unfold sectionsOf at h
    split at h
    · cases h
    · rename_i s hs
      rcases List.mem_cons.mp h with rfl | h
      · exact ⟨x, List.mem_cons_self, rfl, hs⟩
      · obtain ⟨x', hx', hy⟩ := ih h
        exact ⟨x', List.mem_cons_of_mem _ hx', hy⟩

/-- A section whose tenant no id has stays as it is. -/
theorem find?_of_not_named {ids : List (String × String)} (h : ∀ x ∈ ids, x.2 ≠ tenant) :
    (d.insertAll (sectionsOf env g ids).1).find? tenant = d.find? tenant := by
  rw [Dict.find?_insertAll, List.filter_eq_nil_iff.mpr]
  · rfl
  · intro y hy hk
    obtain ⟨x, hx, heq, -⟩ := mem_sectionsOf hy
    exact h x hx (heq.trans (of_decide_eq_true hk))

/-- The last id that a tenant has gives it its section. -/
theorem exists_last_id {ids : List (String × String)}
    (hordered : ids.Pairwise fun x y => tenantVariable x.1 < tenantVariable y.1)
    (hok : (sectionsOf env g ids).2 = .ok ()) (hmem : (id, tenant) ∈ ids) :
    ∃ last s, (last, tenant) ∈ ids ∧
      (∀ id', (id', tenant) ∈ ids → tenantVariable id' ≤ tenantVariable last) ∧
      sectionOf env g last = .ok s ∧ (d.insertAll (sectionsOf env g ids).1).find? tenant = some s := by
  induction ids generalizing d id with
  | nil => cases hmem
  | cons x ids ih =>
    obtain ⟨id₀, tenant₀⟩ := x
    obtain ⟨hfirst, hordered⟩ := List.pairwise_cons.mp hordered
    unfold sectionsOf at hok ⊢
    split at hok
    · cases hok
    · rename_i s hs
      rw [Dict.insertAll_cons]
      by_cases hlater : ∃ id', (id', tenant) ∈ ids
      · obtain ⟨id', hid'⟩ := hlater
        obtain ⟨last, s', hlast, hmax, hsection, hfind⟩ := ih hordered hok hid'
        refine ⟨last, s', List.mem_cons_of_mem _ hlast, fun other hother => ?_, hsection, hfind⟩
        rcases List.mem_cons.mp hother with heq | hother
        · obtain ⟨rfl, -⟩ := Prod.mk.inj heq
          have hlt := hfirst _ hlast
          exact String.not_lt.mp (String.lt_asymm hlt)
        · exact hmax other hother
      · have honly : ∀ other, (other, tenant) ∈ (id₀, tenant₀) :: ids →
            other = id₀ ∧ tenant = tenant₀ := by
          intro other hother
          rcases List.mem_cons.mp hother with heq | hother
          · exact Prod.mk.inj heq
          · exact (hlater ⟨other, hother⟩).elim
        obtain ⟨rfl, rfl⟩ := honly id hmem
        refine ⟨id, s, List.mem_cons_self, fun other hother => ?_, hs, ?_⟩
        · exact (honly other hother).1 ▸ String.le_refl _
        · rw [find?_of_not_named, Dict.find?_insert_self]
          rintro ⟨id', tenant'⟩ hid' rfl
          exact hlater ⟨id', hid'⟩

/-- Where the sections of all other ids agree, those of their tenants agree too. -/
theorem find?_sectionsOf_congr {ids : List (String × String)}
    (hagree : ∀ x ∈ ids, x.1 ≠ id → sectionOf env g x.1 = sectionOf env' g x.1)
    (hok : (sectionsOf env g ids).2 = .ok ()) (hok' : (sectionsOf env' g ids).2 = .ok ())
    (htenant : (id, tenant) ∉ ids) (hd : d.find? tenant = d'.find? tenant) :
    (d.insertAll (sectionsOf env g ids).1).find? tenant =
      (d'.insertAll (sectionsOf env' g ids).1).find? tenant := by
  induction ids generalizing d d' with
  | nil => exact hd
  | cons x ids ih =>
    unfold sectionsOf at hok hok' ⊢
    split at hok
    · cases hok
    · rename_i s hs
      split at hok'
      · cases hok'
      · rename_i s' hs'
        rw [Dict.insertAll_cons, Dict.insertAll_cons]
        refine ih
          (fun y hy => hagree y (List.mem_cons_of_mem _ hy)) hok hok'
          (fun hmem => htenant (List.mem_cons_of_mem _ hmem)) ?_
        rw [Dict.find?_insert, Dict.find?_insert]
        by_cases hx : tenant = x.2
        · have hid : x.1 ≠ id := by
            rintro rfl
            exact htenant (hx ▸ List.mem_cons_self)
          have hsame := hagree x List.mem_cons_self hid
          rw [hs, hs'] at hsame
          rw [if_pos hx, if_pos hx, Except.ok.inj hsame]
        · rw [if_neg hx, if_neg hx, hd]

end NodeAtlas.Config
