import NodeAtlas.Proofs.Machines.Lookups
import NodeAtlas.Proofs.Machines.Rounds
import NodeAtlas.Proofs.Machines.Visits
import NodeAtlas.Proofs.Pool.Connect

/-!
# What a failed search tells

A caller who is told that there is no such machine should be able to rely on it: nothing failed in the
whole search. If something failed, one of the failures should be told. A single round keeps this
promise. A search by name breaks it, as only its second round decides: what failed in the first round
is forgotten when the second one goes through without a failure.
-/

namespace NodeAtlas.Pool

open Protocol Search

variable {p : Pool} {w : World Pool.interface}

/-! ## Failures of a round -/

/-- Nothing but lookups of machines answers that there is no such machine. -/
def OnlyLookupsMiss (w : World Pool.interface) : Prop :=
  ∀ s c r s', w.answers s c r s' → ∀ key, failureOf c r = some (.vmNotFound key) →
    c.isLookup = true

/-- In such a world the error of a call other than a lookup is never a miss. -/
theorem ne_vmNotFound_of_blamed (hw : OnlyLookupsMiss w) {xs : List Pool.interface.Exchange}
    {err : Error} (h : Blamed xs err) (hxs : ∀ y ∈ xs, ∃ a b, w.answers a y.1 y.2 b) (key : String) :
    err ≠ .vmNotFound key := by
  rintro rfl
  cases h with
  | answer y hy hc herr =>
    obtain ⟨a, b, hanswer⟩ := hxs y hy
    rw [hw _ _ _ _ hanswer key herr] at hc
    cases hc
  | manager secretRef herr => cases herr

theorem ne_vmNotFound_of_course (hw : OnlyLookupsMiss w) {lookup : Lookup} {key : String} {s : Site}
    {xs : List Pool.interface.Exchange} {err : Error} (h : Course p lookup key s xs (.error err))
    (hxs : ∀ y ∈ xs, ∃ a b, w.answers a y.1 y.2 b) (k : String) : err ≠ .vmNotFound k := by
  generalize hres : (Except.error err : Result (Option Found)) = res at h
  cases h with
  | unreachable h =>
    cases hres
    exact ne_vmNotFound_of_blamed hw (blamed_of_connectEndpoint h) hxs k
  | answered _ r _ => exact (judge_eq_error hres.symm).2 k
  | refused _ d h' =>
    cases hres
    refine ne_vmNotFound_of_blamed hw (blamed_of_connectEndpoint h') (fun y hy => hxs y ?_) k
    simp [hy]
  | renewed _ d _ r => exact (judge_eq_error hres.symm).2 k

/-- No failure of a round is a miss. -/
theorem ne_vmNotFound_of_made (hw : OnlyLookupsMiss w) {r : Round.Report} (hr : Round.Made p w r)
    {err : Error} (herr : err ∈ failuresIn r.events) (key : String) : err ≠ .vmNotFound key := by
  obtain ⟨world, after, hends⟩ := hr
  obtain ⟨e, he, hfailure⟩ := List.mem_filterMap.mp herr
  -- The calls of the producer are answered by the world.
  have hasked : ∀ (calls : List Pool.interface.Exchange) ys zs, exchanges r.events = ys ++ zs →
      calls.map outward <:+: ys → ∀ y ∈ calls, ∃ a b, w.answers a y.1 y.2 b := by
    intro calls ys zs hys hpart y hy
    refine answers_of_ends hends (.inl (asked_mem ?_))
    rw [hys]
    exact List.mem_append_left _ (hpart.subset (List.mem_map_of_mem hy))
  cases e with
  | recorded err' =>
    cases hfailure
    obtain ⟨ys, zs, hys, hasks⟩ :=
      asks_of_ends workers_within_pos hends (recorded_mem_iff.mp he)
    cases occasion_of_asks hasks with
    | unreachable _ hcalls hpart =>
      exact ne_vmNotFound_of_blamed hw (blamed_of_retry hcalls) (hasked _ _ _ hys hpart) key
    | missing _ hcalls hpart hmem =>
      exact ne_vmNotFound_of_blamed hw (blamed_of_scan hcalls hmem) (hasked _ _ _ hys hpart) key
  | failed t err' =>
    cases hfailure
    have hperformed : Performed (p.findAt r.round.lookup r.round.key) r.events t (.error err) :=
      performed_of_finished hends he
    obtain ⟨xs, hxs, hworked, -⟩ := hperformed.worked_mem
    refine ne_vmNotFound_of_course hw (course_of_yields hxs) (fun y hy => ?_) key
    exact answers_of_ends hends (.inr ⟨t, hworked y hy⟩)
  | _ => cases hfailure

/-- Without a match, the last failure of a round is told, or that there is no such machine. -/
theorem conclude_of_unmatched {r : Round.Report} (hr : Round.Made p w r) (hu : Round.Unmatched r) :
    (failuresIn r.events = [] ∧
        r.round.conclude r.outcome = .error (.vmNotFound (r.round.lookup.word ++ " " ++ r.round.key))) ∨
      ∃ err ∈ failuresIn r.events, r.round.conclude r.outcome = .error err := by
  obtain ⟨world, after, hends⟩ := hr
  have hverdict := eq_verdict_of_ends hends
  have hex := exhausts_of_ends workers_within_pos hends hu
  rw [verdict, hex.unmatched] at hverdict
  cases hlast : (failuresIn r.events).getLast? with
  | none =>
    rw [hlast] at hverdict
    refine .inl ⟨List.getLast?_eq_none_iff.mp hlast, ?_⟩
    rw [hverdict]
    rfl
  | some err =>
    rw [hlast] at hverdict
    refine .inr ⟨err, List.mem_of_getLast? hlast, ?_⟩
    rw [hverdict]
    rfl

/-! ## The promise -/

/-- The result of a search tells what its rounds have seen. -/
structure Candid (res : Result Found) (log : List Round.Report) : Prop where
  /-- That there is no such machine is told only if nothing matched and nothing failed. -/
  missing : ∀ key, res = .error (.vmNotFound key) →
    (∀ r ∈ log, Round.Unmatched r) ∧ ∀ r ∈ log, failuresIn r.events = []
  /-- If nothing matched and something failed, a failure is told. -/
  failed : (∀ r ∈ log, Round.Unmatched r) → (∃ r ∈ log, failuresIn r.events ≠ []) →
    ∃ err, res = .error err ∧ ∃ r ∈ log, err ∈ failuresIn r.events

/-- The promise is kept unless the last round went through without a match and without a failure after
a failure in a round before. -/
theorem candid_iff_of_decides (hw : OnlyLookupsMiss w) {lookup : Lookup} {id : String}
    {before : List Round.Report} {last : Round.Report} {res : Result Found}
    (hmade : ∀ r ∈ before ++ [last], Round.Made p w r) (h : Decides lookup id before last res) :
    Candid res (before ++ [last]) ↔
      (Round.Unmatched last → failuresIn last.events = [] →
        ∀ r ∈ before, failuresIn r.events = []) := by
  have hlast : Round.Made p w last := hmade last (by simp)
  constructor
  · intro hc hu hnone r hr
    rcases conclude_of_unmatched hlast hu with ⟨-, hres⟩ | ⟨err, herr, -⟩
    · exact (hc.missing _ (h.result.trans hres)).2 r (by simp [hr])
    · rw [hnone] at herr
      cases herr
  · intro hforgotten
    refine ⟨?_, ?_⟩
    · intro key hres
      have hu : Round.Unmatched last := Round.unmatched_of_error (h.result.symm.trans hres)
      have hnone : failuresIn last.events = [] := by
        rcases conclude_of_unmatched hlast hu with ⟨hnone, -⟩ | ⟨err, herr, hconclude⟩
        · exact hnone
        · rw [h.result, hconclude] at hres
          cases hres
          exact (ne_vmNotFound_of_made hw hlast herr key rfl).elim
      constructor
      · intro r hr
        rcases List.mem_append.mp hr with hr | hr
        · exact h.unmatched r hr
        · exact List.mem_singleton.mp hr ▸ hu
      · intro r hr
        rcases List.mem_append.mp hr with hr | hr
        · exact hforgotten hu hnone r hr
        · exact List.mem_singleton.mp hr ▸ hnone
    · intro hall hsome
      have hu : Round.Unmatched last := hall last (by simp)
      rcases conclude_of_unmatched hlast hu with ⟨hnone, -⟩ | ⟨err, herr, hconclude⟩
      · obtain ⟨r, hr, hne⟩ := hsome
        rcases List.mem_append.mp hr with hr | hr
        · exact (hne (hforgotten hu hnone r hr)).elim
        · exact (hne (List.mem_singleton.mp hr ▸ hnone)).elim
      · exact ⟨err, h.result.trans hconclude, last, by simp, herr⟩

/-- The promise is kept by searches by UUID and by address. A search by name breaks it exactly if its
second round goes through without a match and without a failure after a failure in its first round;
then it tells that there is no such machine. -/
theorem candid_unless_forgotten (hw : OnlyLookupsMiss w) {lookup : Lookup} {id : String}
    (hid : isBlankId lookup id = false) {world after : w.State} {res : Result Found}
    {log : List Round.Report} (h : Plays (p.rounds w) (seek lookup id) (world, []) res (after, log)) :
    (lookup ≠ .name → Candid res log) ∧
    (lookup = .name → (Candid res log ↔ ∀ first second, log = [first, second] →
      Round.Unmatched second → failuresIn second.events = [] → failuresIn first.events = [])) ∧
    ∀ first second, log = [first, second] → Round.Unmatched second →
      failuresIn second.events = [] → res = .error (.vmNotFound ("ip " ++ id)) := by
  have hmade : ∀ r ∈ log, Round.Made p w r := made_of_plays h (by simp)
  obtain ⟨before, last, rfl, hdec⟩ := decides_of_seek hid h
  have hcandid := candid_iff_of_decides hw hmade hdec
  have htwo : ∀ first second, before ++ [last] = [first] ++ [second] →
      before = [first] ∧ last = second := by
    intro first second hlog
    obtain ⟨hbefore, hlast⟩ := List.append_inj' hlog rfl
    exact ⟨hbefore, List.singleton_inj.mp hlast⟩
  refine ⟨?_, ?_, ?_⟩
  · intro hname
    obtain rfl := hdec.eq_nil_of_ne_name hname
    exact hcandid.mpr (by simp)
  · intro _
    rw [hcandid]
    constructor
    · intro hforgotten first second hlog hu hnone
      obtain ⟨rfl, rfl⟩ := htwo first second hlog
      exact hforgotten hu hnone first (by simp)
    · intro hforgotten hu hnone r hr
      obtain ⟨first, rfl⟩ : ∃ first, before = [first] := by
        refine List.length_eq_one_iff.mp ?_
        have hone := hdec.length_before_le
        have hpos := List.length_pos_of_mem hr
        omega
      obtain rfl := List.mem_singleton.mp hr
      exact hforgotten _ last rfl hu hnone
  · intro first second hlog hu hnone
    obtain ⟨rfl, rfl⟩ := htwo first second hlog
    rcases conclude_of_unmatched (hmade last (by simp)) hu with ⟨-, hres⟩ | ⟨err, herr, -⟩
    · rw [hdec.result, hres, hdec.round_of_second]
      rfl
    · rw [hnone] at herr
      cases herr

/-! ## An endpoint that is down once -/

/-- The world in which the first attempt to connect fails, and no machine exists. -/
def downOnce : Pool.interface.Handler Bool :=
  smallWorld (fun _ up => (if up then .ok () else .error (.connection "down"), true)) []

/-- A pool of one endpoint, which is tried only once. -/
def single : Pool :=
  ⟨.ofList [("a", endpointAt "a" "10.0.0.1")], [], { connectionAttempts := 1 }⟩

theorem onlyLookupsMiss_downOnce : OnlyLookupsMiss (.ofHandler downOnce) := by
  intro up c r up' hanswer key herr
  obtain ⟨rfl, rfl⟩ := Prod.mk.inj hanswer
  match c with
  | .session _ (.findMachine ..) => rfl
  | .session _ .connect => cases up <;> cases herr
  | .session _ .logout | .session _ .isConnected | .session _ (.updateCredentials _)
  | .session _ .listDatacenters | .session _ (.getDatacenter _) | .session _ (.listHosts _)
  | .session _ (.hostTags _) | .secret .. | .lock | .unlock | .sleep _ => cases herr

/-- A search by address tells of the failure. A search by name keeps the promise only if nothing
failed in its first round. -/
theorem candid_unless_forgotten_single :
    OnlyLookupsMiss (.ofHandler downOnce) ∧
      (∃ log, Plays (single.rounds (.ofHandler downOnce)) (seek .ip "worker-1") (false, [])
          (.error (.connection "down")) (true, log) ∧
        Candid (.error (.connection "down")) log) ∧
      ∃ log, Plays (single.rounds (.ofHandler downOnce)) (seek .name "worker-1") (false, [])
          (.error (.vmNotFound "ip worker-1")) (true, log) ∧
        (Candid (.error (.vmNotFound "ip worker-1")) log ↔ ∀ first second, log = [first, second] →
          Round.Unmatched second → failuresIn second.events = [] → failuresIn first.events = []) := by
  refine ⟨onlyLookupsMiss_downOnce, ?_, ?_⟩
  · obtain ⟨log, h⟩ := plays_find single downOnce .ip "worker-1" false
    exact ⟨log, h, (candid_unless_forgotten onlyLookupsMiss_downOnce rfl h).1 (by decide)⟩
  · obtain ⟨log, h⟩ := plays_find single downOnce .name "worker-1" false
    exact ⟨log, h, (candid_unless_forgotten onlyLookupsMiss_downOnce rfl h).2.1 rfl⟩

/-- The endpoint is down in the first round and answers in the second. The search by name has seen the
failure and nothing has matched, and yet it tells that there is no such machine. -/
theorem not_candid_of_name_search :
    OnlyLookupsMiss (.ofHandler downOnce) ∧ isBlankId .name "worker-1" = false ∧
      ∃ log, Plays (single.rounds (.ofHandler downOnce)) (seek .name "worker-1") (false, [])
          (.error (.vmNotFound "ip worker-1")) (true, log) ∧
        (∀ r ∈ log, Round.Unmatched r) ∧ (∃ r ∈ log, .connection "down" ∈ failuresIn r.events) ∧
        ¬ Candid (.error (.vmNotFound "ip worker-1")) log := by
  refine ⟨onlyLookupsMiss_downOnce, rfl, ?_⟩
  obtain ⟨es₁, hends₁⟩ := ends_run (h := downOnce) (x := Round.search single ⟨.name, "worker-1"⟩)
    capacity_within_pos workers_within_pos pauses false
  obtain ⟨es₂, hends₂⟩ := ends_run (h := downOnce) (x := Round.search single ⟨.ip, "worker-1"⟩)
    capacity_within_pos workers_within_pos pauses true
  let first : Round.Report := ⟨⟨.name, "worker-1"⟩, es₁, .failed (.connection "down")⟩
  let second : Round.Report := ⟨⟨.ip, "worker-1"⟩, es₂, .exhausted⟩
  have hplays : Plays (single.rounds (.ofHandler downOnce)) (seek .name "worker-1") (false, [])
      (.error (.vmNotFound "ip worker-1")) (true, [first, second]) :=
    plays_call_iff.mpr ⟨.failed (.connection "down"), (true, [first]), ⟨es₁, hends₁, rfl⟩,
      plays_call_iff.mpr ⟨.exhausted, (true, [first, second]), ⟨es₂, hends₂, rfl⟩, .ret _ _⟩⟩
  have hfirst : .connection "down" ∈ failuresIn first.events := by
    have hmade : Round.Made single (.ofHandler downOnce) first := ⟨false, true, hends₁⟩
    rcases conclude_of_unmatched hmade (fun f => nofun) with ⟨-, hres⟩ | ⟨err, herr, hres⟩
    · cases hres
    · cases hres
      exact herr
  refine ⟨_, hplays, ?_, ⟨first, by simp, hfirst⟩, ?_⟩
  · intro r hr f hf
    rcases List.mem_pair.mp hr with rfl | rfl <;> cases hf
  · intro hc
    have hnone : failuresIn first.events = [] := (hc.missing _ rfl).2 first (by simp)
    rw [hnone] at hfirst
    cases hfirst

end NodeAtlas.Pool
