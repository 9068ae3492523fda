import NodeAtlas.Proofs.Search.Outcome
import NodeAtlas.Protocol.Solo
import NodeAtlas.Search.Rounds

/-!
# Rounds of zone searches

The place of a zone is found by at most one round. Only a single endpoint with a single datacenter is
answered without one. Finding a zone as the library runs it goes this way.
-/

namespace NodeAtlas.Pool

open Protocol Search

variable {p : Pool} {w : World Pool.interface} {r : ZoneRound}

/-- The round went as the report says. -/
def ZoneRound.Made (p : Pool) (w : World Pool.interface) (r : ZoneRound.Report) : Prop :=
  ∃ world after, Ends (r.round.search p) w world r.events r.outcome after

theorem ZoneRound.conclude_eq_ok_iff {o : Outcome Place} {place : Place} :
    r.conclude o = .ok place ↔ o = .found place := by
  cases o <;> simp [ZoneRound.conclude]

/-! ## Plays -/

section Plays

variable {world after : w.State} {log₀ log : List ZoneRound.Report} {res : Result Place}

/-- A protocol of the pool makes no round. -/
theorem plays_liftZone_iff {α : Type} {q : Protocol Pool.interface α} {a : α} :
    Plays (p.zoneRounds w) (liftZone q) (world, log₀) a (after, log) ↔
      Plays w q world a after ∧ log = log₀ := by
  induction q generalizing world with
  | ret b =>
    constructor
    · intro h
      obtain ⟨rfl, hs⟩ := plays_ret_iff.mp h
      obtain ⟨rfl, rfl⟩ := Prod.mk.inj hs
      exact ⟨.ret _ _, rfl⟩
    · rintro ⟨h, rfl⟩
      obtain ⟨rfl, rfl⟩ := plays_ret_iff.mp h
      exact .ret _ _
  | call c next ih =>
    constructor
    · intro h
      obtain ⟨reply, ⟨t, log₁⟩, ⟨hw, hlog⟩, hnext⟩ := plays_call_iff.mp h
      obtain rfl : log₁ = log₀ := hlog
      obtain ⟨hplays, rfl⟩ := (ih reply).mp hnext
      exact ⟨.call hw hplays, rfl⟩
    · rintro ⟨h, rfl⟩
      obtain ⟨reply, t, hw, hnext⟩ := plays_call_iff.mp h
      exact plays_call_iff.mpr ⟨reply, (t, log), ⟨hw, rfl⟩, (ih reply).mpr ⟨hnext, rfl⟩⟩

/-- With everything to look for, exactly one round is made, and it gives the result. -/
theorem made_of_makeZoneRound (hr : r.isIncomplete = false)
    (h : Plays (p.zoneRounds w) (makeZoneRound r) (world, log₀) res (after, log)) :
    ∃ rep : ZoneRound.Report, log = log₀ ++ [rep] ∧ rep.round = r ∧ ZoneRound.Made p w rep ∧
      res = r.conclude rep.outcome := by
  unfold makeZoneRound at h
  rw [if_neg (by simp [hr])] at h
  obtain ⟨o, ⟨t, log₁⟩, ⟨es, hends, hlog⟩, hret⟩ := plays_call_iff.mp h
  obtain ⟨rfl, hs⟩ := plays_ret_iff.mp hret
  obtain ⟨rfl, rfl⟩ := Prod.mk.inj hs
  exact ⟨⟨r, es, o⟩, hlog, rfl, ⟨world, after, hends⟩, rfl⟩

theorem isIncomplete_of_makeZoneRound {place : Place}
    (h : Plays (p.zoneRounds w) (makeZoneRound r) (world, log₀) (.ok place) (after, log)) :
    r.isIncomplete = false := by
  unfold makeZoneRound at h
  split at h
  · exact nomatch (plays_ret_iff.mp h).1
  · rename_i hr
    simpa using hr

/-- A place is that of a round, unless the pool has a single endpoint and that a single datacenter. -/
theorem cases_of_seekZone {place : Place}
    (h : Plays (p.zoneRounds w) (p.seekZone r) (world, log₀) (.ok place) (after, log)) :
    (∃ e, p.list = [e] ∧ log = log₀ ∧ Plays w (p.onlyPlace e) world (.ok (some place)) after) ∨
      ∃ rep : ZoneRound.Report, log = log₀ ++ [rep] ∧ ZoneRound.Made p w rep ∧
        rep.outcome = .found place := by
  have hround : ∀ {s log₁},
      Plays (p.zoneRounds w) (makeZoneRound r) (s, log₁) (.ok place) (after, log) →
      ∃ rep : ZoneRound.Report, log = log₁ ++ [rep] ∧ ZoneRound.Made p w rep ∧
        rep.outcome = .found place := by
    intro s log₁ hmake
    obtain ⟨rep, hlog, rfl, hmade, hres⟩ :=
      made_of_makeZoneRound (isIncomplete_of_makeZoneRound hmake) hmake
    exact ⟨rep, hlog, hmade, ZoneRound.conclude_eq_ok_iff.mp hres.symm⟩
  unfold seekZone at h
  split at h
  · exact nomatch (plays_ret_iff.mp h).1
  · rename_i e hlist
    obtain ⟨only, ⟨t, log₁⟩, hlifted, h⟩ := plays_bind_iff.mp h
    obtain ⟨honly, rfl⟩ := plays_liftZone_iff.mp hlifted
    rcases only with err | _ | place'
    · exact nomatch (plays_ret_iff.mp h).1
    · exact .inr (hround h)
    · obtain ⟨hplace, hs⟩ := plays_ret_iff.mp h
      obtain ⟨rfl, rfl⟩ := Prod.mk.inj hs
      cases hplace
      exact .inl ⟨e, hlist, rfl, honly⟩
  · exact .inr (hround h)

/-- A place is found without a round exactly as the only place of the only endpoint. -/
theorem plays_seekZone_without_round_iff {place : Place} :
    Plays (p.zoneRounds w) (p.seekZone r) (world, log) (.ok place) (after, log) ↔
      ∃ e, p.list = [e] ∧ Plays w (p.onlyPlace e) world (.ok (some place)) after := by
  constructor
  · intro h
    rcases cases_of_seekZone h with ⟨e, hlist, -, honly⟩ | ⟨rep, hlog, -⟩
    · exact ⟨e, hlist, honly⟩
    · exact absurd hlog (by simp)
  · rintro ⟨e, hlist, honly⟩
    unfold seekZone
    rw [hlist]
    exact plays_bind_iff.mpr
      ⟨.ok (some place), (after, log), plays_liftZone_iff.mpr ⟨honly, rfl⟩, .ret _ _⟩

end Plays

/-! ## Runs -/

section Runs

variable {σ : Type} (p : Pool) (h : Pool.interface.Handler σ)

/-- Running with a handler is playing in its world. -/
theorem plays_handleZone {α : Type} (q : Protocol zoneInterface α) (s : σ)
    (log : List ZoneRound.Report) :
    ∃ log', Plays (p.zoneRounds (.ofHandler h)) q (s, log) (q.run (p.handleZone h) s).1
      ((q.run (p.handleZone h) s).2, log') := by
  induction q generalizing s log with
  | ret a => exact ⟨log, .ret a _⟩
  | call c next ih =>
    obtain ⟨log₁, hanswer⟩ : ∃ log₁, (p.zoneRounds (.ofHandler h)).answers (s, log) c
        (p.handleZone h c s).1 ((p.handleZone h c s).2, log₁) := by
      cases c with
      | pool c => exact ⟨log, rfl, rfl⟩
      | round r =>
        obtain ⟨es, hends⟩ := ends_run (h := h) (x := r.search p) capacity_within_pos
          workers_within_pos pauses s
        exact ⟨_, es, hends, rfl⟩
    obtain ⟨log', hplays⟩ := ih (p.handleZone h c s).1 (p.handleZone h c s).2 log₁
    exact ⟨log', .call hanswer hplays⟩

/-- Finding the place of a zone makes such rounds. -/
theorem plays_findZone (r : ZoneRound) (s : σ) :
    ∃ log, Plays (p.zoneRounds (.ofHandler h)) (p.seekZone r) (s, []) (p.findZone h r s).1
      ((p.findZone h r s).2, log) :=
  plays_handleZone p h (p.seekZone r) s []

end Runs

end NodeAtlas.Pool
