import NodeAtlas.Proofs.Pool.Producers

/-!
# Lookups at sites

How the work on a site can go. It connects and looks the key up, and does both once more if the
session was refused; what it finds is the machine that the last lookup answered.
-/

namespace NodeAtlas.Pool

open Protocol

variable {p : Pool} {lookup : Lookup} {key : String} {s : Site}

/-- A lookup of a key at a site, with its answer. -/
def lookedUp (lookup : Lookup) (key : String) (s : Site) (r : Result Machine) :
    interface.Exchange :=
  ⟨.session s.endpoint.tenant (.findMachine lookup s.datacenter key), r⟩

/-- What a match says about a machine. -/
def foundAt (lookup : Lookup) (key : String) (s : Site) (vm : Machine) : Found :=
  ⟨s.place, canonicalize vm.uuid, if lookup = .ip then key else vm.name, vm⟩

theorem judge_eq_found {r : Result Machine} {f : Found} (h : judge lookup key s r = .ok (some f)) :
    ∃ vm, r = .ok vm ∧ f = foundAt lookup key s vm := by
  unfold judge at h
  split at h
  · cases h
    exact ⟨_, rfl, rfl⟩
  · cases h
  · cases h

/-- A machine that is not there is no error. -/
theorem judge_eq_error {r : Result Machine} {err : Error} (h : judge lookup key s r = .error err) :
    r = .error err ∧ ∀ k, err ≠ .vmNotFound k := by
  unfold judge at h
  split at h
  · cases h
  · cases h
  · rename_i e hne
    cases h
    exact ⟨rfl, fun k hk => hne k hk⟩

theorem yields_lookUp_iff {xs : List interface.Exchange} {r : Result Machine} :
    (lookUp lookup key s).Yields xs r ↔ xs = [lookedUp lookup key s r] :=
  yields_ask_iff (c := .session s.endpoint.tenant (.findMachine lookup s.datacenter key))

/-- How the work on a site goes. -/
inductive Course (p : Pool) (lookup : Lookup) (key : String) (s : Site) :
    List interface.Exchange → Result (Option Found) → Prop where
  /-- Connecting fails. -/
  | unreachable {xs : List interface.Exchange} {err : Error}
      (h : (p.connectEndpoint s.endpoint).Yields xs (.error err)) :
      Course p lookup key s xs (.error err)
  /-- The lookup is answered, and the session is not refused. -/
  | answered {xs : List interface.Exchange} (h : (p.connectEndpoint s.endpoint).Yields xs (.ok ()))
      (r : Result Machine) (hr : ∀ d, r ≠ .error (.invalidCredentials d)) :
      Course p lookup key s (xs ++ [lookedUp lookup key s r]) (judge lookup key s r)
  /-- The session is refused, and connecting once more fails. -/
  | refused {xs zs : List interface.Exchange} {err : Error}
      (h : (p.connectEndpoint s.endpoint).Yields xs (.ok ())) (d : String)
      (h' : (p.connectEndpoint s.endpoint).Yields zs (.error err)) :
      Course p lookup key s (xs ++ lookedUp lookup key s (.error (.invalidCredentials d)) :: zs)
        (.error err)
  /-- The session is refused and renewed, and the second lookup counts. -/
  | renewed {xs zs : List interface.Exchange}
      (h : (p.connectEndpoint s.endpoint).Yields xs (.ok ())) (d : String)
      (h' : (p.connectEndpoint s.endpoint).Yields zs (.ok ())) (r : Result Machine) :
      Course p lookup key s (xs ++ lookedUp lookup key s (.error (.invalidCredentials d)) :: zs ++
        [lookedUp lookup key s r]) (judge lookup key s r)

theorem course_of_yields {xs : List interface.Exchange} {res : Result (Option Found)}
    (h : (p.findAt lookup key s).Yields xs res) : Course p lookup key s xs res := by
  rw [findAt] at h
  obtain ⟨xs, c, ys, hc, h₁, rfl⟩ := yields_bind_iff.mp h
  cases c with
  | error err =>
    obtain ⟨rfl, rfl⟩ := yields_pure_iff.mp h₁
    rw [List.append_nil]
    exact .unreachable hc
  | ok u =>
    obtain ⟨_, r, ys, hlookup, h₂, rfl⟩ := yields_bind_iff.mp h₁
    rw [yields_lookUp_iff.mp hlookup]
    split at h₂
    · rename_i d
      obtain ⟨zs, c', ys, hc', h₃, rfl⟩ := yields_bind_iff.mp h₂
      cases c' with
      | error err =>
        obtain ⟨rfl, rfl⟩ := yields_pure_iff.mp h₃
        rw [List.append_nil]
        exact .refused hc d hc'
      | ok u' =>
        obtain ⟨_, r', ys, hlookup', h₄, rfl⟩ := yields_bind_iff.mp h₃
        obtain ⟨rfl, rfl⟩ := yields_pure_iff.mp h₄
        rw [yields_lookUp_iff.mp hlookup']
        simpa using Course.renewed hc d hc' r'
    · rename_i hr
      obtain ⟨rfl, rfl⟩ := yields_pure_iff.mp h₂
      exact .answered hc r hr

/-- A match is the machine that a lookup answered. -/
theorem Course.lookedUp_of_found {xs : List interface.Exchange} {f : Found}
    (h : Course p lookup key s xs (.ok (some f))) :
    ∃ vm, lookedUp lookup key s (.ok vm) ∈ xs ∧ f = foundAt lookup key s vm := by
  generalize hres : (Except.ok (some f) : Result (Option Found)) = res at h
  cases h with
  | unreachable => cases hres
  | answered _ r _ =>
    obtain ⟨vm, rfl, hf⟩ := judge_eq_found hres.symm
    exact ⟨vm, by simp, hf⟩
  | refused => cases hres
  | renewed _ d _ r =>
    obtain ⟨vm, rfl, hf⟩ := judge_eq_found hres.symm
    exact ⟨vm, by simp, hf⟩

end NodeAtlas.Pool
