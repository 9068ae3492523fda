import Mathlib.Logic.ExistsUnique
import NodeAtlas.Proofs.Pool.Connect

/-!
# Retries

An endpoint is tried until an attempt succeeds or fails for good, or until no attempt is left, with a
pause before every attempt but the first. Counting the attempts up, as a loop does, comes to the same and
never leads beyond their number.
-/

namespace NodeAtlas.Pool

open Protocol

/-- The failure may go away by itself. -/
def Transient (r : Result Unit) : Prop := ∃ d, r = .error (.connection d)

/-- The number of attempts: they stop at the first outcome that is not transient, or at the limit. -/
structure Stops (limit : Nat) (outcomes : Nat → Result Unit) (n : Nat) : Prop where
  pos : 1 ≤ n
  bounded : n ≤ limit
  transient : ∀ i, i + 1 < n → Transient (outcomes i)
  last : n = limit ∨ ¬ Transient (outcomes (n - 1))

def pause (p : Pool) : interface.Exchange := ⟨.sleep p.discovery.retryDelay.toNat, ()⟩

/-- The exchanges of attempts with a pause between any two of them. -/
def spaced (p : Pool) (calls : Nat → List interface.Exchange) (n : Nat) : List interface.Exchange :=
  [p.pause].intercalate ((List.range n).map calls)

/-- Attempts with these outcomes come to the last of them. -/
structure Retried (p : Pool) (e : Endpoint) (limit : Nat) (outcomes : Nat → Result Unit)
    (calls : Nat → List interface.Exchange) (n : Nat) (xs : List interface.Exchange)
    (r : Result Unit) : Prop where
  stops : Stops limit outcomes n
  attempts : ∀ i < n, (p.connectEndpoint e).Yields (calls i) (outcomes i)
  exchanges : xs = p.spaced calls n
  result : r = outcomes (n - 1)

theorem toNat_succ {limit attempt : UInt32} (h : attempt < limit) :
    (attempt + 1).toNat = attempt.toNat + 1 := by
  have hlt := UInt32.lt_iff_toNat_lt.mp h
  have hlimit := limit.toNat_lt
  have hone : (1 : UInt32).toNat = 1 := rfl
  rw [UInt32.toNat_add, hone]
  omega

/-- Connects like `retry`, but counts the attempts up. The counter is returned with the result. -/
def retryFrom (p : Pool) (e : Endpoint) (limit attempt : UInt32) :
    Protocol interface (Result Unit × UInt32) := do
  match ← p.connectEndpoint e with
  | .error err =>
    if _ : err.isTransient ∧ attempt < limit then
      ask (.sleep p.discovery.retryDelay.toNat)
      retryFrom p e limit (attempt + 1)
    else return (.error err, attempt)
  | .ok () => return (.ok (), attempt)
  termination_by limit.toNat - attempt.toNat
  decreasing_by
    rename_i hmore
    have hlt := UInt32.lt_iff_toNat_lt.mp hmore.2
    have hstep := toNat_succ hmore.2
    omega

variable {p : Pool} {e : Endpoint} {outcomes : Nat → Result Unit} {n limit : Nat}
  {xs : List interface.Exchange} {calls : Nat → List interface.Exchange} {r : Result Unit}

/-! ## The number of attempts -/

theorem stops_one_iff :
    Stops limit outcomes 1 ↔ 1 ≤ limit ∧ (limit = 1 ∨ ¬ Transient (outcomes 0)) := by
  constructor
  · rintro ⟨-, hbounded, -, hlast⟩
    exact ⟨hbounded, hlast.imp_left Eq.symm⟩
  · rintro ⟨hbounded, hlast⟩
    exact ⟨Nat.le_refl 1, hbounded, by omega, hlast.imp_left Eq.symm⟩

/-- After a first outcome that is transient, the others stop as if they were all. -/
theorem stops_succ_iff (hn : 1 ≤ n) : Stops (limit + 1) outcomes (n + 1) ↔
    Transient (outcomes 0) ∧ Stops limit (fun i => outcomes (i + 1)) n := by
  have hindex : n - 1 + 1 = n := by omega
  constructor
  · rintro ⟨-, hbounded, htransient, hlast⟩
    refine ⟨htransient 0 (by omega), hn, by omega, fun i hi => htransient (i + 1) (by omega), ?_⟩
    rw [hindex]
    exact hlast.imp_left Nat.succ.inj
  · rintro ⟨hfirst, -, hbounded, htransient, hlast⟩
    rw [hindex] at hlast
    refine ⟨by omega, by omega, fun i hi => ?_, hlast.imp_left (congrArg Nat.succ)⟩
    cases i with
    | zero => exact hfirst
    | succ i => exact htransient i (by omega)

theorem exists_stops (hlimit : 1 ≤ limit) (outcomes : Nat → Result Unit) :
    ∃ n, Stops limit outcomes n := by
  induction limit generalizing outcomes with
  | zero => cases hlimit
  | succ limit ih =>
    by_cases hstop : limit = 0 ∨ ¬ Transient (outcomes 0)
    · exact ⟨1, stops_one_iff.mpr ⟨hlimit, hstop.imp_left (congrArg Nat.succ)⟩⟩
    · obtain ⟨hmore, hfirst⟩ := not_or.mp hstop
      obtain ⟨n, hn⟩ := ih (by omega) fun i => outcomes (i + 1)
      exact ⟨n + 1, (stops_succ_iff hn.pos).mpr ⟨Classical.not_not.mp hfirst, hn⟩⟩

theorem Stops.unique {m : Nat} (h : Stops limit outcomes n) (h' : Stops limit outcomes m) : n = m := by
  have hle : ∀ {n m}, Stops limit outcomes n → Stops limit outcomes m → m ≤ n := by
    intro n m h h'
    refine Nat.le_of_not_lt fun hlt => ?_
    -- If one went on, its attempt at the end of the other was transient, and there was one more left.
    have hpos := h.pos
    have hmore : Transient (outcomes (n - 1)) := h'.transient (n - 1) (by omega)
    have hend : n = limit := h.last.resolve_right fun hnot => hnot hmore
    have hbound := h'.bounded
    omega
  exact Nat.le_antisymm (hle h' h) (hle h h')

/-! ## The exchanges of attempts -/

theorem map_range_succ (calls : Nat → List interface.Exchange) (m : Nat) :
    (List.range (m + 1)).map calls = calls 0 :: (List.range m).map fun i => calls (i + 1) := by
  rw [List.range_succ_eq_map, List.map_cons, List.map_map]
  rfl

theorem spaced_one (p : Pool) (calls : Nat → List interface.Exchange) :
    p.spaced calls 1 = calls 0 := by
  simp [spaced, List.intercalate]

theorem spaced_succ (p : Pool) (calls : Nat → List interface.Exchange) (hn : 1 ≤ n) :
    p.spaced calls (n + 1) = calls 0 ++ p.pause :: p.spaced (fun i => calls (i + 1)) n := by
  obtain ⟨m, rfl⟩ : ∃ m, n = m + 1 := ⟨n - 1, by omega⟩
  unfold spaced
  rw [map_range_succ calls, map_range_succ fun i => calls (i + 1)]
  rfl

theorem not_transient_ok : ¬ Transient (.ok ()) := by
  rintro ⟨d, hd⟩
  cases hd

theorem isTransient_iff {err : Error} : err.isTransient = true ↔ Transient (.error err) := by
  constructor
  · intro h
    cases err with
    | connection d => exact ⟨d, rfl⟩
    | _ => cases h
  · rintro ⟨d, heq⟩
    obtain rfl := Except.error.inj heq
    rfl

/-! ## Counting up -/

/-- One attempt, and either there is another one or its outcome counts. -/
theorem yields_retryFrom_iff {limit attempt a : UInt32} :
    (p.retryFrom e limit attempt).Yields xs (r, a) ↔
      ((p.connectEndpoint e).Yields xs r ∧ ¬ (Transient r ∧ attempt < limit) ∧ a = attempt) ∨
      ∃ fs first gs, (p.connectEndpoint e).Yields fs first ∧ Transient first ∧ attempt < limit ∧
        (p.retryFrom e limit (attempt + 1)).Yields gs (r, a) ∧ xs = fs ++ p.pause :: gs := by
  rw [retryFrom, yields_bind_iff]
  constructor
  · rintro ⟨fs, first, gs, hfirst, hrest, rfl⟩
    cases first with
    | ok u =>
      obtain ⟨rfl, heq⟩ := yields_pure_iff.mp hrest
      obtain ⟨rfl, rfl⟩ := Prod.mk.inj heq
      rw [List.append_nil]
      exact .inl ⟨hfirst, fun hmore => not_transient_ok hmore.1, rfl⟩
    | error err =>
      dsimp only at hrest
      split at hrest
      · rename_i hmore
        obtain ⟨_, u, hs, hsleep, hlater, rfl⟩ := yields_bind_iff.mp hrest
        obtain rfl := yields_ask_iff.mp hsleep
        exact .inr ⟨fs, .error err, hs, hfirst, isTransient_iff.mp hmore.1, hmore.2, hlater, rfl⟩
      · rename_i hnot
        obtain ⟨rfl, heq⟩ := yields_pure_iff.mp hrest
        obtain ⟨rfl, rfl⟩ := Prod.mk.inj heq
        rw [List.append_nil]
        exact .inl ⟨hfirst, fun hmore => hnot ⟨isTransient_iff.mpr hmore.1, hmore.2⟩, rfl⟩
  · rintro (⟨hfirst, hnot, rfl⟩ | ⟨fs, first, gs, hfirst, ⟨d, rfl⟩, hmore, hlater, rfl⟩)
    · refine ⟨xs, r, [], hfirst, ?_, (List.append_nil xs).symm⟩
      cases r with
      | ok u => exact .ret _
      | error err =>
        dsimp only
        rw [dif_neg fun hmore => hnot ⟨isTransient_iff.mp hmore.1, hmore.2⟩]
        exact .ret _
    · refine ⟨fs, _, _, hfirst, ?_, rfl⟩
      dsimp only
      rw [dif_pos ⟨rfl, hmore⟩]
      exact yields_ask_bind hlater

/-- What belongs to one attempt and to those after it. -/
def following {α : Type} (first : α) (later : Nat → α) : Nat → α
  | 0 => first
  | i + 1 => later i

theorem retried_one (h : (p.connectEndpoint e).Yields xs r) (hstop : limit = 0 ∨ ¬ Transient r) :
    Retried p e (limit + 1) (fun _ => r) (fun _ => xs) 1 xs r where
  stops := stops_one_iff.mpr ⟨by omega, hstop.imp_left (congrArg Nat.succ)⟩
  attempts _ _ := h
  exchanges := (spaced_one p fun _ => xs).symm
  result := rfl

theorem Retried.after {fs : List interface.Exchange} {first : Result Unit}
    (h : Retried p e limit outcomes calls n xs r) (hfirst : (p.connectEndpoint e).Yields fs first)
    (hmore : Transient first) : Retried p e (limit + 1) (following first outcomes)
      (following fs calls) (n + 1) (fs ++ p.pause :: xs) r where
  stops := (stops_succ_iff h.stops.pos).mpr ⟨hmore, h.stops⟩
  attempts i hi := by
    cases i with
    | zero => exact hfirst
    | succ i => exact h.attempts i (by omega)
  exchanges := by
    rw [spaced_succ p _ h.stops.pos, h.exchanges]
    rfl
  result := by
    obtain ⟨m, rfl⟩ : ∃ m, n = m + 1 := ⟨n - 1, by have := h.stops.pos; omega⟩
    exact h.result

/-- Either the first attempt was the last, or the others went on after a pause. -/
theorem Retried.first_or_after (h : Retried p e (limit + 1) outcomes calls n xs r) :
    (n = 1 ∧ (p.connectEndpoint e).Yields xs r ∧ (limit = 0 ∨ ¬ Transient r)) ∨
      ∃ m gs, n = m + 1 ∧ (p.connectEndpoint e).Yields (calls 0) (outcomes 0) ∧
        Transient (outcomes 0) ∧ xs = calls 0 ++ p.pause :: gs ∧
        Retried p e limit (fun i => outcomes (i + 1)) (fun i => calls (i + 1)) m gs r := by
  obtain ⟨hstops, hattempts, rfl, rfl⟩ := h
  have hpos := hstops.pos
  have hfirst := hattempts 0 hpos
  by_cases hone : n = 1
  · subst hone
    have hlast := (stops_one_iff.mp hstops).2
    rw [spaced_one]
    exact .inl ⟨rfl, hfirst, hlast.imp_left Nat.succ.inj⟩
  · obtain ⟨m, rfl⟩ : ∃ m, n = m + 1 := ⟨n - 1, by omega⟩
    have hm : 1 ≤ m := by omega
    have hindex : m - 1 + 1 = m := by omega
    obtain ⟨htransient, hrest⟩ := (stops_succ_iff hm).mp hstops
    refine .inr ⟨m, _, rfl, hfirst, htransient, spaced_succ p calls hm, hrest, ?_, rfl, ?_⟩
    · intro i hi
      exact hattempts (i + 1) (by omega)
    · rw [hindex, Nat.add_sub_cancel]

theorem exists_retried_iff {k : Nat} {limit attempt a : UInt32}
    (hk : attempt.toNat + k = limit.toNat) :
    (p.retryFrom e limit attempt).Yields xs (r, a) ↔ ∃ outcomes calls n,
      Retried p e (k + 1) outcomes calls n xs r ∧ a.toNat + 1 = attempt.toNat + n := by
  have hmore_iff : attempt < limit ↔ k ≠ 0 := by
    rw [UInt32.lt_iff_toNat_lt]
    omega
  induction k generalizing attempt xs with
  | zero =>
    rw [yields_retryFrom_iff]
    constructor
    · rintro (⟨hfirst, -, rfl⟩ | ⟨_, _, _, -, -, hmore, -⟩)
      · exact ⟨_, _, 1, retried_one hfirst (.inl rfl), rfl⟩
      · exact absurd rfl (hmore_iff.mp hmore)
    · rintro ⟨outcomes, calls, n, h, ha⟩
      rcases h.first_or_after with ⟨rfl, hfirst, -⟩ | ⟨m, gs, rfl, -, -, -, hrest⟩
      · have heq : a = attempt := UInt32.toNat_inj.mp (by omega)
        exact .inl ⟨hfirst, fun hmore => hmore_iff.mp hmore.2 rfl, heq⟩
      · have hpos := hrest.stops.pos
        have hbound := hrest.stops.bounded
        omega
  | succ k ih =>
    have hmore : attempt < limit := hmore_iff.mpr (by omega)
    have hstep : (attempt + 1).toNat = attempt.toNat + 1 := toNat_succ hmore
    have hmore_iff' : attempt + 1 < limit ↔ k ≠ 0 := by
      rw [UInt32.lt_iff_toNat_lt]
      omega
    have hrest_iff : ∀ gs, (p.retryFrom e limit (attempt + 1)).Yields gs (r, a) ↔
        ∃ outcomes calls n, Retried p e (k + 1) outcomes calls n gs r ∧
          a.toNat + 1 = (attempt + 1).toNat + n := fun gs => ih (by omega) hmore_iff'
    rw [yields_retryFrom_iff]
    constructor
    · rintro (⟨hfirst, hnot, rfl⟩ | ⟨fs, first, gs, hfirst, htransient, -, hlater, rfl⟩)
      · have hstop : ¬ Transient r := fun htransient => hnot ⟨htransient, hmore⟩
        exact ⟨_, _, 1, retried_one hfirst (.inr hstop), rfl⟩
      · obtain ⟨outcomes, calls, n, h, ha⟩ := (hrest_iff _).mp hlater
        exact ⟨_, _, n + 1, h.after hfirst htransient, by omega⟩
    · rintro ⟨outcomes, calls, n, h, ha⟩
      rcases h.first_or_after with
        ⟨rfl, hfirst, hlast⟩ | ⟨m, gs, rfl, hfirst, htransient, rfl, hrest⟩
      · have hstop : ¬ Transient r := hlast.resolve_left (by omega)
        have heq : a = attempt := UInt32.toNat_inj.mp (by omega)
        exact .inl ⟨hfirst, fun hagain => hstop hagain.1, heq⟩
      · have hlater := (hrest_iff _).mpr ⟨_, _, m, hrest, by omega⟩
        exact .inr ⟨_, _, gs, hfirst, htransient, hmore, hlater, rfl⟩

/-- Counting up and counting down come to the same. -/
theorem map_fst_retryFrom {k : Nat} {limit attempt : UInt32}
    (hk : attempt.toNat + k = limit.toNat) : Prod.fst <$> p.retryFrom e limit attempt = p.retry e k := by
  induction k generalizing attempt with
  | zero =>
    have hnot : ¬ attempt < limit := by
      rw [UInt32.lt_iff_toNat_lt]
      omega
    rw [retryFrom, retry, map_bind]
    refine Eq.trans (bind_congr fun first => ?_) (bind_pure (p.connectEndpoint e))
    cases first with
    | ok u => rfl
    | error err =>
      dsimp only
      rw [dif_neg fun hmore => hnot hmore.2]
      rfl
  | succ k ih =>
    have hmore : attempt < limit := by
      rw [UInt32.lt_iff_toNat_lt]
      omega
    have hstep : (attempt + 1).toNat = attempt.toNat + 1 := toNat_succ hmore
    rw [retryFrom, retry, map_bind]
    refine bind_congr fun first => ?_
    cases first with
    | ok u => rfl
    | error err =>
      dsimp only
      by_cases htransient : err.isTransient = true
      · rw [dif_pos ⟨htransient, hmore⟩, if_pos htransient, map_bind, ih (by omega)]
      · rw [dif_neg fun hagain => htransient hagain.1, if_neg htransient]
        rfl

/-! ## Pauses and the lock -/

/-- Who holds the lock after exchanges of one caller, if nobody held it before. -/
def heldAfter (xs : List interface.Exchange) : Option Nat :=
  xs.foldl (fun holder y => Interleaving.holderAfter turns 0 y.1 holder) none

/-- An attempt takes the lock once and gives it back, and does not pause. -/
theorem attempt_of_connectEndpoint (h : (p.connectEndpoint e).Yields xs r) :
    heldAfter xs = none ∧ xs.filter (pauses ·.1) = [] ∧ xs.countP (·.1 = .lock) = 1 := by
  cases attempt_of_yields h with
  | settled r hr => exact ⟨rfl, rfl, rfl⟩
  | refreshed d h =>
    cases h with
    | unmanaged => exact ⟨rfl, rfl, rfl⟩
    | refused => exact ⟨rfl, rfl, rfl⟩
    | replaced => exact ⟨rfl, rfl, rfl⟩

theorem heldAfter_append {ys : List interface.Exchange} (h : heldAfter xs = none) :
    heldAfter (xs ++ ys) = heldAfter ys := by
  unfold heldAfter at h ⊢
  rw [List.foldl_append, h]

theorem heldAfter_pause_cons (p : Pool) (ys : List interface.Exchange) :
    heldAfter (p.pause :: ys) = heldAfter ys := rfl

theorem counts_spaced (hn : 1 ≤ n) (h : ∀ i < n, ∃ r, (p.connectEndpoint e).Yields (calls i) r) :
    (p.spaced calls n).filter (pauses ·.1) = List.replicate (n - 1) p.pause ∧
      (p.spaced calls n).countP (·.1 = .lock) = n := by
  obtain ⟨m, rfl⟩ : ∃ m, n = m + 1 := ⟨n - 1, by omega⟩
  induction m generalizing calls with
  | zero =>
    obtain ⟨r, hr⟩ := h 0 (by omega)
    obtain ⟨-, hpauses, hlock⟩ := attempt_of_connectEndpoint hr
    rw [spaced_one]
    exact ⟨hpauses, hlock⟩
  | succ m ih =>
    obtain ⟨r, hr⟩ := h 0 (by omega)
    obtain ⟨-, hpauses, hlock⟩ := attempt_of_connectEndpoint hr
    have hlater : ∀ i < m + 1, ∃ r, (p.connectEndpoint e).Yields (calls (i + 1)) r :=
      fun i hi => h (i + 1) (by omega)
    obtain ⟨hrest, hcount⟩ := ih (by omega) hlater
    have hpause : ∀ ys, (p.pause :: ys).filter (pauses ·.1) = p.pause :: ys.filter (pauses ·.1) :=
      fun _ => rfl
    have hnot : ∀ ys, (p.pause :: ys).countP (·.1 = .lock) = ys.countP (·.1 = .lock) :=
      fun _ => List.countP_cons_of_neg (by simp [pause])
    rw [spaced_succ p calls (by omega), List.filter_append, List.countP_append, hpause, hnot, hpauses,
      hrest, hlock, hcount]
    exact ⟨rfl, Nat.add_comm 1 (m + 1)⟩

/-- Whoever pauses has given the lock back. -/
theorem heldAfter_of_asks_sleep {k ms : Nat} (h : (p.retry e k).Asks xs (.sleep ms)) :
    ms = p.discovery.retryDelay.toNat ∧ heldAfter xs = none := by
  have hnever : ∀ {ys}, ¬ (p.connectEndpoint e).Asks ys (.sleep ms) := by
    intro ys hys
    cases only_connects p e ys _ hys
  induction k generalizing xs with
  | zero => exact absurd h hnever
  | succ k ih =>
    rw [retry, asks_bind_iff] at h
    obtain ⟨fs, first, gs, hfirst, hrest, rfl⟩ := h.resolve_left hnever
    have hfree := (attempt_of_connectEndpoint hfirst).1
    rw [heldAfter_append hfree]
    cases first with
    | ok u => exact (not_asks_ret _ _ _ hrest).elim
    | error err =>
      dsimp only at hrest
      split at hrest
      · rcases asks_bind_iff.mp hrest with hsleep | ⟨hs, u, ks, hsleep, hlater, rfl⟩
        · cases hsleep with
          | here => exact ⟨rfl, rfl⟩
          | later r hnone => exact (not_asks_ret _ _ _ hnone).elim
        · obtain rfl := yields_ask_iff.mp hsleep
          obtain ⟨hms, hheld⟩ := ih hlater
          exact ⟨hms, (heldAfter_pause_cons p ks).trans hheld⟩
      · exact (not_asks_ret _ _ _ hrest).elim

/-! ## All attempts -/

/-- The number of attempts that are configured, which is at least one. -/
def attemptLimit (p : Pool) : UInt32 := max p.discovery.connectionAttempts 1

theorem toNat_attemptLimit (p : Pool) :
    p.attemptLimit.toNat = max p.discovery.connectionAttempts.toNat 1 := by
  have hone : (1 : UInt32).toNat = 1 := rfl
  have hmax : p.attemptLimit = if p.discovery.connectionAttempts ≤ 1 then 1
      else p.discovery.connectionAttempts := rfl
  rw [hmax]
  split
  · rename_i hle
    rw [UInt32.le_iff_toNat_le] at hle
    omega
  · rename_i hle
    rw [UInt32.le_iff_toNat_le] at hle
    omega

/-- How often an endpoint is tried. Whatever the outcomes of the attempts, the first one that is not
transient is the last, or else as many are made as are configured, and at least one. The outcome of the
last is returned. Between any two attempts there is one pause of the configured length, and none at the
end, and the lock is not held during a pause. A loop that counts the attempts up in 32 bits does the same,
and its counter ends at their number. -/
theorem retried_iff_yields_connectWithRetry (p : Pool) (e : Endpoint) :
    p.attemptLimit.toNat = max p.discovery.connectionAttempts.toNat 1 ∧
    (∀ outcomes, ∃! n, Stops p.attemptLimit.toNat outcomes n) ∧
    (∀ xs r, (p.connectWithRetry e).Yields xs r ↔
      ∃ outcomes calls n, Retried p e p.attemptLimit.toNat outcomes calls n xs r) ∧
    (∀ outcomes calls n xs r, Retried p e p.attemptLimit.toNat outcomes calls n xs r →
      xs.filter (pauses ·.1) = List.replicate (n - 1) p.pause ∧ xs.countP (·.1 = .lock) = n) ∧
    (∀ xs ms, (p.connectWithRetry e).Asks xs (.sleep ms) →
      ms = p.discovery.retryDelay.toNat ∧ heldAfter xs = none) ∧
    Prod.fst <$> p.retryFrom e p.attemptLimit 1 = p.connectWithRetry e ∧
    ∀ xs r a, (p.retryFrom e p.attemptLimit 1).Yields xs (r, a) ↔
      ∃ outcomes calls, Retried p e p.attemptLimit.toNat outcomes calls a.toNat xs r := by
  have hlimit := p.toNat_attemptLimit
  have hone : (1 : UInt32).toNat = 1 := rfl
  have hk : (1 : UInt32).toNat + (p.discovery.connectionAttempts.toNat - 1) = p.attemptLimit.toNat := by
    omega
  have hsucc : p.discovery.connectionAttempts.toNat - 1 + 1 = p.attemptLimit.toNat := by omega
  have hfrom : ∀ xs r a, (p.retryFrom e p.attemptLimit 1).Yields xs (r, a) ↔
      ∃ outcomes calls, Retried p e p.attemptLimit.toNat outcomes calls a.toNat xs r := by
    intro xs r a
    rw [exists_retried_iff hk, hsucc]
    constructor
    · rintro ⟨outcomes, calls, n, h, ha⟩
      obtain rfl : n = a.toNat := by omega
      exact ⟨outcomes, calls, h⟩
    · rintro ⟨outcomes, calls, h⟩
      exact ⟨outcomes, calls, a.toNat, h, by omega⟩
  have hmap : Prod.fst <$> p.retryFrom e p.attemptLimit 1 = p.connectWithRetry e :=
    map_fst_retryFrom hk
  refine ⟨hlimit, fun outcomes => ?_, fun xs r => ?_, ?_, fun xs ms => heldAfter_of_asks_sleep, hmap,
    hfrom⟩
  · obtain ⟨n, hn⟩ := exists_stops (show 1 ≤ p.attemptLimit.toNat by omega) outcomes
    exact ⟨n, hn, fun m hm => hm.unique hn⟩
  · rw [← hmap, yields_map_iff]
    constructor
    · rintro ⟨⟨_, a⟩, h, rfl⟩
      obtain ⟨outcomes, calls, hretried⟩ := (hfrom xs _ a).mp h
      exact ⟨outcomes, calls, a.toNat, hretried⟩
    · rintro ⟨outcomes, calls, n, h⟩
      -- The number of attempts fits into the counter, as it is within the limit.
      have hfits : n < 2 ^ 32 := Nat.lt_of_le_of_lt h.stops.bounded p.attemptLimit.toNat_lt
      have hn : (UInt32.ofNat n).toNat = n := UInt32.toNat_ofNat_of_lt' hfits
      exact ⟨(r, UInt32.ofNat n), (hfrom xs r _).mpr ⟨outcomes, calls, hn.symm ▸ h⟩, rfl⟩
  · rintro outcomes calls n xs r ⟨hstops, hattempts, rfl, -⟩
    exact counts_spaced hstops.pos fun i hi => ⟨_, hattempts i hi⟩

end NodeAtlas.Pool
