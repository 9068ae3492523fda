import NodeAtlas.Protocol.Paths
import NodeAtlas.Proofs.Search.Outcome
import NodeAtlas.Search.Rounds

/-!
# The rounds that are made

The rounds of a search for a machine are made in their order until one of them finds it, and the last
one decides the result. Finding a machine as the library runs it is one such sequence of rounds.
-/

namespace NodeAtlas.Pool

open Protocol Search

variable {p : Pool} {w : World Pool.interface}

/-! ## Reports -/

/-- The round went as the report says. -/
def Round.Made (p : Pool) (w : World Pool.interface) (r : Round.Report) : Prop :=
  ∃ world after, Ends (r.round.search p) w world r.events r.outcome after

/-- All reports tell of rounds that were made. -/
theorem made_of_plays {α : Type} {q : Protocol Round.interface α} {s s' : (p.rounds w).State}
    {a : α} (h : Plays (p.rounds w) q s a s') (hs : ∀ r ∈ s.2, Round.Made p w r) :
    ∀ r ∈ s'.2, Round.Made p w r := by
  induction h with
  | ret a s => exact hs
  | call hw _ ih =>
    obtain ⟨es, hends, hlog⟩ := hw
    refine ih fun r hr => ?_
    rw [hlog] at hr
    rcases List.mem_append.mp hr with hr | hr
    · exact hs r hr
    · rw [List.mem_singleton.mp hr]
      exact ⟨_, _, hends⟩

/-- The rounds made one after another by a handler are rounds in its world. -/
theorem plays_run {σ α : Type} (p : Pool) (h : interface.Handler σ)
    (q : Protocol Round.interface α) (s : σ) (log : List Round.Report) :
    ∃ log', Plays (p.rounds (.ofHandler h)) q (s, log)
      (q.run (fun r s => (r.search p).run pauses h s) s).1
      ((q.run (fun r s => (r.search p).run pauses h s) s).2, log') := by
  induction q generalizing s log with
  | ret a => exact ⟨log, .ret a _⟩
  | call r next ih =>
    obtain ⟨es, hends⟩ := ends_run (h := h) (x := r.search p) capacity_within_pos
      workers_within_pos pauses s
    obtain ⟨log', hplays⟩ := ih ((r.search p).run pauses h s).1 ((r.search p).run pauses h s).2
      (log ++ [⟨r, es, ((r.search p).run pauses h s).1⟩])
    exact ⟨log', .call ⟨es, hends, rfl⟩ hplays⟩

/-- Finding a machine makes such rounds. -/
theorem plays_find {σ : Type} (p : Pool) (h : interface.Handler σ) (lookup : Lookup) (id : String)
    (s : σ) :
    ∃ log, Plays (p.rounds (.ofHandler h)) (seek lookup id) (s, []) (p.find h lookup id s).1
      ((p.find h lookup id s).2, log) :=
  plays_run p h (seek lookup id) s []

/-! ## What decides -/

def Round.Unmatched (r : Round.Report) : Prop := ∀ f, r.outcome ≠ .found f

theorem Round.conclude_eq_ok_iff {r : Round} {o : Outcome Found} {f : Found} :
    r.conclude o = .ok f ↔ o = .found f := by
  cases o <;> simp [Round.conclude]

/-- Some rounds that found nothing and the last one, which decides the result. Unless it found
something, all rounds were made. -/
structure Decides (lookup : Lookup) (id : String) (before : List Round.Report)
    (last : Round.Report) (res : Result Found) : Prop where
  /-- The rounds come in their order. -/
  rounds : (before ++ [last]).map Report.round <+: roundsFor lookup id
  /-- The last round is the first that may have found something. -/
  unmatched : ∀ r ∈ before, Round.Unmatched r
  /-- The last round gives the result. -/
  result : res = last.round.conclude last.outcome
  /-- Without a match all rounds were made. -/
  complete : Round.Unmatched last → (before ++ [last]).map Report.round = roundsFor lookup id

section Decides

variable {lookup : Lookup} {id : String} {before : List Round.Report} {last : Round.Report}
  {res : Result Found}

/-- Only a search by name makes two rounds. -/
theorem Decides.length_before_le (h : Decides lookup id before last res) : before.length ≤ 1 := by
  have hlength := h.rounds.length_le
  rw [List.length_map, List.length_append, List.length_singleton] at hlength
  cases lookup <;> simp only [roundsFor, List.length_cons, List.length_nil] at hlength <;> omega

theorem Decides.eq_nil_of_ne_name (h : Decides lookup id before last res) (hname : lookup ≠ .name) :
    before = [] := by
  have hlength := h.rounds.length_le
  rw [List.length_map, List.length_append, List.length_singleton] at hlength
  refine List.eq_nil_of_length_eq_zero ?_
  cases lookup with
  | uuid => simpa [roundsFor] using hlength
  | ip => simpa [roundsFor] using hlength
  | name => exact (hname rfl).elim

/-- The second round looks the key up as an address. -/
theorem Decides.round_of_second {first : Round.Report} (h : Decides lookup id [first] last res) :
    last.round = ⟨.ip, id⟩ := by
  have hrounds := h.rounds
  cases lookup with
  | uuid => exact absurd hrounds.length_le (by simp [roundsFor])
  | ip => exact absurd hrounds.length_le (by simp [roundsFor])
  | name =>
    have heq := hrounds.eq_of_length rfl
    simpa [roundsFor] using (List.cons.inj heq).2

end Decides

theorem Round.unmatched_of_error {r : Round.Report} {e : Error}
    (h : r.round.conclude r.outcome = .error e) : Round.Unmatched r := by
  intro f hf
  rw [Round.conclude_eq_ok_iff.mpr hf] at h
  cases h

/-- The result of a search for a machine is that of its last round. -/
theorem decides_of_seek {lookup : Lookup} {id : String} (hid : isBlankId lookup id = false)
    {world after : w.State} {log : List Round.Report} {res : Result Found}
    (h : Plays (p.rounds w) (seek lookup id) (world, []) res (after, log)) :
    ∃ before last, log = before ++ [last] ∧ Decides lookup id before last res := by
  unfold seek at h
  rw [if_neg (by simp [hid])] at h
  cases lookup with
  | uuid =>
    obtain ⟨o, s, ⟨es, -, hlog⟩, hret⟩ := plays_call_iff.mp h
    obtain ⟨rfl, hs⟩ := plays_ret_iff.mp hret
    rw [← hs] at hlog
    exact ⟨[], ⟨_, es, o⟩, hlog, List.prefix_rfl, by simp, rfl, fun _ => rfl⟩
  | ip =>
    obtain ⟨o, s, ⟨es, -, hlog⟩, hret⟩ := plays_call_iff.mp h
    obtain ⟨rfl, hs⟩ := plays_ret_iff.mp hret
    rw [← hs] at hlog
    exact ⟨[], ⟨_, es, o⟩, hlog, List.prefix_rfl, by simp, rfl, fun _ => rfl⟩
  | name =>
    simp only [Round.make, bind_eq, Protocol.bind] at h
    obtain ⟨o₁, s₁, ⟨es₁, -, hlog₁⟩, hret⟩ := plays_call_iff.mp h
    cases hres : Round.conclude ⟨.name, id⟩ o₁ with
    | ok f =>
      rw [hres] at hret
      obtain ⟨rfl, hs⟩ := plays_ret_iff.mp hret
      rw [← hs] at hlog₁
      refine ⟨[], ⟨_, es₁, o₁⟩, hlog₁, ?_, by simp, hres.symm, fun hf => ?_⟩
      · exact List.prefix_append [(⟨.name, id⟩ : Round)] [⟨.ip, id⟩]
      · exact (hf f (Round.conclude_eq_ok_iff.mp hres)).elim
    | error e =>
      rw [hres] at hret
      obtain ⟨o₂, s₂, ⟨es₂, -, hlog₂⟩, hret⟩ := plays_call_iff.mp hret
      obtain ⟨rfl, hs⟩ := plays_ret_iff.mp hret
      rw [← hs, hlog₁] at hlog₂
      refine ⟨[⟨_, es₁, o₁⟩], ⟨_, es₂, o₂⟩, hlog₂, List.prefix_rfl, fun r hr => ?_, rfl,
        fun _ => rfl⟩
      rw [List.mem_singleton.mp hr]
      exact Round.unmatched_of_error hres

/-! ## A small world -/

/-- A world in which every endpoint has one datacenter, and in it machines of the given names. -/
def smallWorld {σ : Type} (reach : String → σ → Result Unit × σ) (names : List String) :
    Pool.interface.Handler σ
  | .session tenant .connect, s => reach tenant s
  | .session _ .logout, s => (.ok (), s)
  | .session _ .isConnected, s => (true, s)
  | .session _ (.updateCredentials _), s => ((), s)
  | .session _ .listDatacenters, s => (.ok [⟨"dc1", "DC1", ""⟩], s)
  | .session _ (.getDatacenter name), s => (.error (.datacenterNotFound name), s)
  | .session _ (.findMachine lookup _ key), s =>
    (if lookup = .name ∧ key ∈ names then .ok ⟨"4210A1B2", key, [], 4, 8192, "", none⟩
      else .error (.vmNotFound key), s)
  | .session _ (.listHosts _), s => (.ok [], s)
  | .session _ (.hostTags _), s => (.ok [], s)
  | .secret .., s => (.ok .none, s)
  | .lock, s | .unlock, s | .sleep _, s => ((), s)

/-- An endpoint without credentials. -/
def endpointAt (tenant host : String) : Endpoint :=
  ⟨tenant, host, 443, .none, globalSecretRef, false, [], [.ipv4]⟩

end NodeAtlas.Pool
