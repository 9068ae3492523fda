import NodeAtlas.Proofs.Pool.Producers

/-!
# Connecting, exchange by exchange

How an attempt to connect goes, and where the errors of attempts and of scans come from: each of them
is the answer to a call, unless no manager is registered for the credentials.
-/

namespace NodeAtlas.Pool

open Protocol

variable {p : Pool} {e : Endpoint}

/-! ## Attempts -/

/-- How refused credentials are replaced. -/
inductive Refresh (p : Pool) (e : Endpoint) : List interface.Exchange → Result Unit → Prop where
  /-- Nobody manages the credentials. -/
  | unmanaged (h : p.managers.contains e.secretRef = false) :
      Refresh p e [] (.error (.credentialManagerNotFound e.secretRef))
  /-- The manager has no credentials for the endpoint. -/
  | refused (h : p.managers.contains e.secretRef = true) (err : Error) :
      Refresh p e [⟨.secret e.secretRef e.host, .error err⟩] (.error err)
  /-- The endpoint is connected with the credentials of the manager. -/
  | replaced (h : p.managers.contains e.secretRef = true) (c : Credentials) (r : Result Unit) :
      Refresh p e [⟨.secret e.secretRef e.host, .ok c⟩,
        ⟨.session e.tenant (.updateCredentials c), ()⟩, ⟨.session e.tenant .connect, r⟩] r

theorem refresh_of_yields {xs : List interface.Exchange} {r : Result Unit}
    (h : (p.refresh e).Yields xs r) : Refresh p e xs r := by
  rw [refresh] at h
  by_cases hmanager : p.managers.contains e.secretRef
  · rw [if_neg (by simpa using hmanager)] at h
    obtain ⟨_, c, ys, hsecret, h₁, rfl⟩ := yields_bind_iff.mp h
    rw [yields_ask_iff.mp hsecret]
    cases c with
    | error err =>
      obtain ⟨rfl, rfl⟩ := yields_pure_iff.mp h₁
      exact .refused hmanager err
    | ok c =>
      obtain ⟨_, _, ys, hupdate, hconnect, rfl⟩ := yields_bind_iff.mp h₁
      rw [yields_ask_iff.mp hupdate, yields_ask_iff.mp hconnect]
      exact .replaced hmanager c r
  · rw [if_pos (by simpa using hmanager)] at h
    obtain ⟨rfl, rfl⟩ := yields_pure_iff.mp h
    exact .unmanaged (by simpa using hmanager)

/-- How an attempt to connect goes. -/
inductive Attempt (p : Pool) (e : Endpoint) : List interface.Exchange → Result Unit → Prop where
  /-- The first answer counts, as the credentials are not refused. -/
  | settled (r : Result Unit) (hr : ∀ d, r ≠ .error (.invalidCredentials d)) :
      Attempt p e [⟨.lock, ()⟩, ⟨.session e.tenant .connect, r⟩, ⟨.unlock, ()⟩] r
  /-- The credentials are refused and replaced. -/
  | refreshed (d : String) {xs : List interface.Exchange} {r : Result Unit} (h : Refresh p e xs r) :
      Attempt p e (⟨.lock, ()⟩ ::
        ⟨.session e.tenant .connect, .error (.invalidCredentials d)⟩ :: xs ++ [⟨.unlock, ()⟩]) r

theorem attempt_of_yields {xs : List interface.Exchange} {r : Result Unit}
    (h : (p.connectEndpoint e).Yields xs r) : Attempt p e xs r := by
  rw [connectEndpoint] at h
  obtain ⟨_, _, ys, hlock, h₁, rfl⟩ := yields_bind_iff.mp h
  obtain ⟨_, c, zs, hconnect, h₂, rfl⟩ := yields_bind_iff.mp h₁
  rw [yields_ask_iff.mp hlock, yields_ask_iff.mp hconnect]
  -- Either way the turn ends with the result.
  have hend : ∀ {ys : List interface.Exchange} {c : Result Unit},
      (ask .unlock >>= fun _ => pure c : Protocol interface (Result Unit)).Yields ys r →
      ys = [⟨.unlock, ()⟩] ∧ r = c := by
    intro ys c h
    obtain ⟨_, _, _, hunlock, hret, rfl⟩ := yields_bind_iff.mp h
    obtain ⟨rfl, rfl⟩ := yields_pure_iff.mp hret
    exact ⟨by rw [yields_ask_iff.mp hunlock]; rfl, rfl⟩
  dsimp only at h₂
  split at h₂
  · rename_i d
    obtain ⟨ys, c, _, hrefresh, hunlock, rfl⟩ := yields_bind_iff.mp h₂
    obtain ⟨rfl, rfl⟩ := hend hunlock
    exact .refreshed d (refresh_of_yields hrefresh)
  · rename_i hr
    obtain ⟨_, c', _, hpure, hunlock, rfl⟩ := yields_bind_iff.mp h₂
    obtain ⟨rfl, rfl⟩ := yields_pure_iff.mp hpure
    obtain ⟨rfl, rfl⟩ := hend hunlock
    exact .settled _ hr

theorem yields_ask_bind {α : Type} {c : Call} {r : Reply c} {f : Reply c → Protocol interface α}
    {xs : List interface.Exchange} {a : α} (h : (f r).Yields xs a) :
    (ask c >>= f).Yields (⟨c, r⟩ :: xs) a :=
  yields_bind_iff.mpr ⟨[⟨c, r⟩], r, xs, yields_ask_iff.mpr rfl, h, rfl⟩

theorem yields_of_refresh {xs : List interface.Exchange} {r : Result Unit} (h : Refresh p e xs r) :
    (p.refresh e).Yields xs r := by
  unfold refresh
  cases h with
  | unmanaged h =>
    rw [if_pos (by rw [h]; rfl)]
    exact .ret _
  | refused h err =>
    rw [if_neg (by rw [h]; decide)]
    exact yields_ask_bind (.ret _)
  | replaced h c =>
    rw [if_neg (by rw [h]; decide)]
    refine yields_ask_bind (yields_ask_bind ?_)
    exact yields_ask_iff.mpr rfl

theorem yields_connectEndpoint_iff {xs : List interface.Exchange} {r : Result Unit} :
    (p.connectEndpoint e).Yields xs r ↔ Attempt p e xs r := by
  refine ⟨attempt_of_yields, fun h => ?_⟩
  unfold connectEndpoint
  cases h with
  | settled _ hr =>
    refine yields_ask_bind (yields_ask_bind ?_)
    dsimp only
    split
    · exact absurd rfl (hr _)
    · exact yields_ask_bind (.ret r)
  | refreshed d h =>
    refine yields_ask_bind (yields_ask_bind ?_)
    exact yields_bind_iff.mpr ⟨_, r, _, yields_of_refresh h, yields_ask_bind (.ret r), rfl⟩

/-- The calls of an attempt to connect. -/
inductive Call.Connects (e : Endpoint) : Call → Prop where
  | lock : Connects e .lock
  | unlock : Connects e .unlock
  | secret : Connects e (.secret e.secretRef e.host)
  | update (c : Credentials) : Connects e (.session e.tenant (.updateCredentials c))
  | connect : Connects e (.session e.tenant .connect)

theorem only_connects (p : Pool) (e : Endpoint) : (p.connectEndpoint e).Only (Call.Connects e) := by
  have hask : ∀ {c : Call}, c.Connects e → (ask c).Only (Call.Connects e) :=
    fun hc => only_call_iff.mpr ⟨hc, only_ret⟩
  have hrefresh : (p.refresh e).Only (Call.Connects e) := by
    unfold refresh
    split
    · exact only_ret _
    · refine (hask .secret).bind fun answer => ?_
      cases answer with
      | error err => exact only_ret _
      | ok c => exact (hask (.update c)).bind fun _ => hask .connect
  have hend : ∀ r : Result Unit, (ask .unlock >>= fun _ => pure r : Protocol interface (Result Unit)).Only
      (Call.Connects e) := fun r => (hask .unlock).bind fun _ => only_ret r
  unfold connectEndpoint
  refine (hask .lock).bind fun _ => (hask .connect).bind fun first => ?_
  split
  · exact hrefresh.bind hend
  · exact hend _

/-! ## Where errors come from -/

def errorOf {α : Type} : Result α → Option Error
  | .ok _ => none
  | .error err => some err

def failureOf : (c : Call) → Reply c → Option Error
  | .session _ .connect, r => errorOf r
  | .session _ .logout, r => errorOf r
  | .session _ .listDatacenters, r => errorOf r
  | .session _ (.getDatacenter _), r => errorOf r
  | .session _ (.findMachine ..), r => errorOf r
  | .session _ (.listHosts _), r => errorOf r
  | .session _ (.hostTags _), r => errorOf r
  | .secret .., r => errorOf r
  | _, _ => none

/-- The call looks up a machine. -/
def Call.isLookup : Call → Bool
  | .session _ (.findMachine ..) => true
  | _ => false

/-- An error has its cause in these exchanges: it is the answer to a call other than a lookup of a
machine, or no manager is registered. -/
inductive Blamed (xs : List interface.Exchange) (err : Error) : Prop where
  /-- A call failed. -/
  | answer (y : interface.Exchange) (hy : y ∈ xs) (hc : y.1.isLookup = false)
      (herr : failureOf y.1 y.2 = some err)
  /-- There is no manager for the credentials. -/
  | manager (secretRef : String) (herr : err = .credentialManagerNotFound secretRef)

theorem Blamed.mono {xs ys : List interface.Exchange} {err : Error} (h : Blamed xs err)
    (hsub : xs ⊆ ys) : Blamed ys err := by
  cases h with
  | answer y hy hc herr => exact .answer y (hsub hy) hc herr
  | manager secretRef herr => exact .manager secretRef herr

theorem blamed_of_refresh {xs : List interface.Exchange} {err : Error}
    (h : Refresh p e xs (.error err)) : Blamed xs err := by
  cases h with
  | unmanaged => exact .manager e.secretRef rfl
  | refused => exact .answer _ List.mem_cons_self rfl rfl
  | replaced _ c => exact .answer ⟨.session e.tenant .connect, .error err⟩ (by simp) rfl rfl

theorem blamed_of_connectEndpoint {xs : List interface.Exchange} {err : Error}
    (h : (p.connectEndpoint e).Yields xs (.error err)) : Blamed xs err := by
  cases attempt_of_yields h with
  | settled => exact .answer ⟨.session e.tenant .connect, .error err⟩ (by simp) rfl rfl
  | refreshed d h =>
    refine (blamed_of_refresh h).mono fun y hy => ?_
    simp [hy]

theorem blamed_of_retry {attempts : Nat} {xs : List interface.Exchange} {err : Error}
    (h : (p.retry e attempts).Yields xs (.error err)) : Blamed xs err := by
  induction attempts generalizing xs with
  | zero => exact blamed_of_connectEndpoint h
  | succ attempts ih =>
    rw [retry] at h
    obtain ⟨ys, c, zs, hconnect, h₁, rfl⟩ := yields_bind_iff.mp h
    cases c with
    | ok u =>
      obtain ⟨-, hc⟩ := yields_pure_iff.mp h₁
      cases hc
    | error err' =>
      dsimp only at h₁
      split at h₁
      · obtain ⟨_, _, vs, -, hrest, rfl⟩ := yields_bind_iff.mp h₁
        refine (ih hrest).mono fun y hy => ?_
        simp [hy]
      · obtain ⟨rfl, hc⟩ := yields_pure_iff.mp h₁
        cases hc
        refine (blamed_of_connectEndpoint hconnect).mono ?_
        simp

theorem blamed_of_lookupAll {names : List String} {s s' : Scan} {xs : List interface.Exchange}
    (h : (lookupAll e s names).Yields xs s') {err : Error} (herr : err ∈ s'.failures) :
    err ∈ s.failures ∨ Blamed xs err := by
  induction names generalizing s xs with
  | nil =>
    obtain ⟨-, rfl⟩ := yields_pure_iff.mp h
    exact .inl herr
  | cons name names ih =>
    rw [lookupAll] at h
    obtain ⟨ys, c, zs, hget, h₁, rfl⟩ := yields_bind_iff.mp h
    cases c with
    | ok d =>
      rcases ih h₁ with h' | h'
      · exact .inl h'
      · exact .inr (h'.mono (List.subset_append_right ys zs))
    | error err' =>
      rcases ih h₁ with h' | h'
      · rcases List.mem_append.mp h' with h' | h'
        · exact .inl h'
        · obtain rfl := List.mem_singleton.mp h'
          refine .inr (.answer ⟨.session e.tenant (.getDatacenter name), .error err⟩ ?_ rfl rfl)
          rw [yields_ask_iff.mp hget]
          simp
      · exact .inr (h'.mono (List.subset_append_right ys zs))

theorem blamed_of_scan {s : Scan} {xs : List interface.Exchange} (h : (scan e).Yields xs s)
    {err : Error} (herr : err ∈ s.failures) : Blamed xs err := by
  rw [scan] at h
  split at h
  · obtain ⟨ys, c, zs, hlist, h₁, rfl⟩ := yields_bind_iff.mp h
    cases c with
    | ok ds =>
      obtain ⟨-, rfl⟩ := yields_pure_iff.mp h₁
      cases herr
    | error err' =>
      obtain ⟨-, rfl⟩ := yields_pure_iff.mp h₁
      obtain rfl := List.mem_singleton.mp herr
      refine .answer ⟨.session e.tenant .listDatacenters, .error err⟩ ?_ rfl rfl
      rw [yields_ask_iff.mp hlist]
      simp
  · exact (blamed_of_lookupAll h herr).resolve_left (by simp)

end NodeAtlas.Pool
