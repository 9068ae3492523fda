import NodeAtlas.Dict.Lemmas
import NodeAtlas.Pool.Basic

/-!
# The endpoints of a pool

A pool that was created has exactly the given endpoints, each under its own tenant.
-/

namespace NodeAtlas.Pool

variable {σ : Type} {factory : Endpoint → Result σ}

/-- Every endpoint is stored under its tenant. -/
def Keyed (d : Dict Endpoint) : Prop := ∀ k e, d.find? k = some e → k = e.tenant

theorem Keyed.insert {d : Dict Endpoint} (h : Keyed d) (e : Endpoint) :
    Keyed (d.insert e.tenant e) := by
  intro k e' hk
  rw [Dict.find?_insert] at hk
  split at hk
  · rename_i heq
    rw [heq, Option.some.inj hk]
  · exact h k e' hk

/-- Opening adds the endpoints to those that are there. -/
theorem openAll_spec {es : List Endpoint} {o o' : Opening σ} (h : openAll factory o es = .ok o')
    (ho : Keyed o.1) : Keyed o'.1 ∧ o'.1.values.Perm (es ++ o.1.values) := by
  induction es generalizing o with
  | nil =>
    rw [openAll] at h
    cases h
    exact ⟨ho, .refl _⟩
  | cons e es ih =>
    rw [openAll] at h
    split at h
    · cases h
    · rename_i hnew
      split at h
      · cases h
      · obtain ⟨hkeyed, hperm⟩ := ih h (ho.insert e)
        refine ⟨hkeyed, hperm.trans ?_⟩
        have hvalues := Dict.perm_values_insert e (Bool.not_eq_true _ ▸ hnew)
        exact (hvalues.append_left es).trans List.perm_middle

/-- Opening opens a session for every endpoint and leaves those that are there. -/
theorem find?_of_openAll {es : List Endpoint} {o o' : Opening σ}
    (h : openAll factory o es = .ok o') :
    (∀ e ∈ es, ∃ s, factory e = .ok s ∧ o'.2.find? e.tenant = some s) ∧
      ∀ tenant, o.1.contains tenant = true → o'.2.find? tenant = o.2.find? tenant := by
  induction es generalizing o with
  | nil =>
    rw [openAll] at h
    cases h
    exact ⟨nofun, fun _ _ => rfl⟩
  | cons e es ih =>
    rw [openAll] at h
    split at h
    · cases h
    · rename_i hnew
      split at h
      · cases h
      · rename_i s hs
        obtain ⟨hopened, hkept⟩ := ih h
        refine ⟨fun e' he' => ?_, fun tenant htenant => ?_⟩
        · rcases List.mem_cons.mp he' with rfl | he'
          · refine ⟨s, hs, ?_⟩
            rw [hkept e'.tenant (Dict.contains_insert_iff.mpr (.inl rfl)), Dict.find?_insert_self]
          · exact hopened e' he'
        · have hne : tenant ≠ e.tenant := by
            rintro rfl
            exact hnew htenant
          rw [hkept tenant (Dict.contains_insert_iff.mpr (.inr htenant)),
            Dict.find?_insert_of_ne _ _ hne]

theorem find?_of_create {endpoints : List Endpoint} {managers : List String}
    {discovery : Config.Discovery} {p : Pool} {sessions : Dict σ}
    (h : create endpoints factory managers discovery = .ok (p, sessions)) {e : Endpoint}
    (he : e ∈ endpoints) : ∃ s, factory e = .ok s ∧ sessions.find? e.tenant = some s := by
  rw [create] at h
  split at h
  · cases h
  · rename_i o ho
    cases h
    exact (find?_of_openAll ho).1 e he

theorem managers_of_create {endpoints : List Endpoint} {managers : List String}
    {discovery : Config.Discovery} {p : Pool} {sessions : Dict σ}
    (h : create endpoints factory managers discovery = .ok (p, sessions)) : p.managers = managers := by
  rw [create] at h
  split at h
  · cases h
  · cases h
    rfl

theorem keyed_of_create {endpoints : List Endpoint} {managers : List String}
    {discovery : Config.Discovery} {p : Pool} {sessions : Dict σ}
    (h : create endpoints factory managers discovery = .ok (p, sessions)) : Keyed p.endpoints := by
  rw [create] at h
  split at h
  · cases h
  · rename_i o ho
    cases h
    exact (openAll_spec ho (by simp [Keyed])).1

theorem Keyed.endpoint_eq {p : Pool} (h : Keyed p.endpoints) {tenant : String} {e : Endpoint}
    (he : p.endpoint tenant = .ok e) : tenant = e.tenant := by
  unfold endpoint at he
  split at he
  · rename_i e' hfind
    cases he
    exact h tenant e hfind
  · cases he

theorem Keyed.endpoint_of_mem {p : Pool} (h : Keyed p.endpoints) {e : Endpoint} (he : e ∈ p.list) :
    p.endpoint e.tenant = .ok e := by
  obtain ⟨k, hfind⟩ := Dict.mem_values_iff.mp he
  rw [endpoint, ← h k e hfind, hfind]

/-- The pool has the given endpoints and no others. -/
theorem perm_list_of_create {endpoints : List Endpoint} {managers : List String}
    {discovery : Config.Discovery} {p : Pool} {sessions : Dict σ}
    (h : create endpoints factory managers discovery = .ok (p, sessions)) :
    p.list.Perm endpoints ∧ ∀ e ∈ endpoints, p.endpoint e.tenant = .ok e := by
  rw [create] at h
  split at h
  · cases h
  · rename_i o ho
    cases h
    obtain ⟨hkeyed, hperm⟩ := openAll_spec ho (o := (∅, ∅)) (by simp [Keyed])
    have hvalues : o.1.values.Perm endpoints := by simpa using hperm
    exact ⟨hvalues, fun e he => Keyed.endpoint_of_mem hkeyed (hvalues.mem_iff.mpr he)⟩

/-- The endpoints of a pool come in the order of their tenants. -/
theorem ascending_of_create {endpoints : List Endpoint} {managers : List String}
    {discovery : Config.Discovery} {p : Pool} {sessions : Dict σ}
    (h : create endpoints factory managers discovery = .ok (p, sessions)) :
    p.list.Pairwise fun a b => a.tenant < b.tenant := by
  have hkeyed : ∀ x ∈ p.endpoints.entries, x.1 = x.2.tenant := by
    intro x hx
    exact keyed_of_create h x.1 x.2 (Dict.find?_eq_some_iff.mpr hx)
  refine List.pairwise_map.mpr (p.endpoints.ordered.imp_of_mem fun ha hb hlt => ?_)
  rw [← hkeyed _ ha, ← hkeyed _ hb]
  exact hlt

/-! ## Pools of changed endpoints -/

variable {τ : Type} {g : Endpoint → Result τ} {κ : Endpoint → Endpoint} {π : σ → τ}

theorem openAll_map (hκ : ∀ e, (κ e).tenant = e.tenant) (hg : ∀ e, g (κ e) = (factory e).map π)
    (o : Opening σ) (es : List Endpoint) :
    openAll g (o.1.map κ, o.2.map π) (es.map κ) =
      (openAll factory o es).map fun o => (o.1.map κ, o.2.map π) := by
  induction es generalizing o with
  | nil => rfl
  | cons e es ih =>
    rw [List.map_cons, openAll, openAll, Dict.contains_map, hκ, hg]
    split
    · rfl
    · cases hopen : factory e with
      | error err => rfl
      | ok s =>
        have hrest := ih (o.1.insert e.tenant e, o.2.insert e.tenant s)
        rw [Dict.map_insert, Dict.map_insert] at hrest
        exact hrest

/-- A change to the endpoints that keeps their tenants, and a view of the sessions that is all the same
before and after it, carry over to the pool. -/
theorem create_map (hκ : ∀ e, (κ e).tenant = e.tenant) (hg : ∀ e, g (κ e) = (factory e).map π)
    (endpoints : List Endpoint) (managers : List String) (discovery : Config.Discovery) :
    create (endpoints.map κ) g managers discovery =
      (create endpoints factory managers discovery).map fun x =>
        ({ x.1 with endpoints := x.1.endpoints.map κ }, x.2.map π) := by
  have hopened := openAll_map hκ hg (∅, ∅) endpoints
  have hempty : ((∅ : Dict Endpoint).map κ, (∅ : Dict σ).map π) = (∅, ∅) := rfl
  rw [hempty] at hopened
  rw [create, create, hopened]
  cases openAll factory (∅, ∅) endpoints with
  | error err => rfl
  | ok o => rfl

end NodeAtlas.Pool
