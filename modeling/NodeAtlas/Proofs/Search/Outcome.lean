import NodeAtlas.Proofs.Search.Ledger
import NodeAtlas.Proofs.Search.Schedule

/-!
# How searches end

A search that finds something returns its first match. One that finds nothing has left nothing out,
and its outcome is the last failure, if there is any. This holds for every order in which producer,
workers and caller move, for every world, and for every size of the queue and of the pool.
-/

namespace NodeAtlas.Search

open Protocol

variable {I : Interface} {T R : Type} {x : Search I T R} {w : World I}
  {world after : w.State} {es : List (Event I T R)} {o : Outcome R}

section Final

variable {s : State I T R w.State}

theorem idle_of_final (h : Orderly x s) (hx : 0 < x.workers) (hf : s.Final)
    (hw : s.winner = none) : s.waiting = [] ∧ s.inHand = [] := by
  have hgone := h.joined hf.1
  obtain ⟨p, hp⟩ := h.exists_worker hx
  refine ⟨(h.gone hw p hp (hgone p hp)).2, ?_⟩
  rw [State.inHand, List.filterMap_eq_nil_iff]
  intro q hq
  have hq' := hgone q hq
  cases q with
  | gone => rfl
  | _ => exact hq'.elim

theorem ofResult_of_finished {e : Event I T R} {t : T} (h : e.finished? = some t) :
    ∃ res, e = .ofResult t res := by
  cases e with
  | matched t' r => cases h; exact ⟨.ok (some r), rfl⟩
  | missed t' => cases h; exact ⟨.ok none, rfl⟩
  | failed t' err => cases h; exact ⟨.error err, rfl⟩
  | _ => cases h

/-- At the end without a match, nothing was left out. -/
theorem exhausts_of_final (hx : 0 < x.workers) (h : Steps x w (.start x world) es s)
    (hf : s.Final) (hw : s.winner = none) : Exhausts x.produce x.work es := by
  have hacc := accounted_of_steps h
  have hfol := followed_of_steps hx h
  obtain ⟨hwait, hhand⟩ := idle_of_final (orderly_of_steps h) hx hf hw
  have hqueue := hacc.queue
  have hfin := hacc.hands
  rw [hwait, List.append_nil] at hqueue
  rw [hhand, List.append_nil, ← hqueue] at hfin
  obtain ⟨q, hq, hs⟩ := hfol.reached
  have hend := (hs.resolve_left fun hc => by simp [hf.2] at hc).2 hw
  have hmatches : matchesIn es = [] := by
    have hwin := (scored_of_steps h).1
    rw [hw] at hwin
    cases hm : matchesIn es with
    | nil => rfl
    | cons m ms => simp [hm] at hwin
  refine ⟨hend.2, (hend.1 ▸ hq).yields, hfol.unhurried hw, hqueue.symm, hfin.symm,
    ?_, hmatches⟩
  intro t ht
  obtain ⟨e, he, hte⟩ := List.mem_filterMap.mp (hfin.mem_iff.mp ht)
  obtain ⟨res, rfl⟩ := ofResult_of_finished hte
  refine ⟨res, ?_, (worked_of_steps h).ended t res he⟩
  rintro r rfl
  have hmem : (t, r) ∈ matchesIn es := List.mem_filterMap.mpr ⟨_, he, rfl⟩
  rw [hmatches] at hmem
  cases hmem

end Final

theorem eq_verdict_of_ends (h : Ends x w world es o after) : o = verdict es := by
  obtain ⟨s, hs, _, ho, _⟩ := h
  rw [← ho]
  exact (scored_of_steps hs).outcome_eq

theorem verdict_eq_found_iff {r : R} :
    verdict es = .found r ↔ ∃ t, (matchesIn es).head? = some (t, r) := by
  rw [verdict]
  cases (matchesIn es).head? with
  | none => cases (failuresIn es).getLast? <;> simp
  | some m =>
    obtain ⟨t, r'⟩ := m
    simp

/-- A search without a match has left nothing out. -/
theorem exhausts_of_ends (hx : 0 < x.workers) (h : Ends x w world es o after)
    (ho : ∀ r, o ≠ .found r) : Exhausts x.produce x.work es := by
  obtain ⟨s, hs, hf, hout, _⟩ := h
  refine exhausts_of_final hx hs hf ?_
  cases hw : s.winner with
  | none => rfl
  | some r => exact (ho r (by rw [← hout, State.outcome, hw])).elim

theorem performed_of_finished (h : Ends x w world es o after) {t : T} {res : Result (Option R)}
    (he : .ofResult t res ∈ es) : Performed x.work es t res := by
  obtain ⟨s, hs, -⟩ := h
  exact (worked_of_steps hs).ended t res he

/-- A match comes from the whole work on a task that was put on the queue. -/
theorem performed_of_match (h : Ends x w world es o after) {t : T} {r : R}
    (hm : (t, r) ∈ matchesIn es) : t ∈ pushes es ∧ Performed x.work es t (.ok (some r)) := by
  obtain ⟨s, hs, -⟩ := h
  have hacc := accounted_of_steps hs
  obtain ⟨e, he, hem⟩ := List.mem_filterMap.mp hm
  obtain rfl : e = .matched t r := by
    cases e with
    | matched t' r' => cases hem; rfl
    | _ => cases hem
  refine ⟨?_, (worked_of_steps hs).ended t (.ok (some r)) he⟩
  have hfin : t ∈ finishes es := List.mem_filterMap.mpr ⟨_, he, rfl⟩
  have htake : t ∈ takes es := hacc.hands.mem_iff.mpr (List.mem_append_left _ hfin)
  rw [hacc.queue]
  exact List.mem_append_left _ htake

theorem asks_of_ends (hx : 0 < x.workers) (h : Ends x w world es o after)
    {y : (interface I T).Exchange} (hy : y ∈ exchanges es) :
    ∃ ys zs, exchanges es = ys ++ y :: zs ∧ x.produce.Asks ys y.1 := by
  obtain ⟨s, hs, -⟩ := h
  obtain ⟨q, hq, -⟩ := (followed_of_steps hx hs).reached
  obtain ⟨ys, zs, heq⟩ := List.append_of_mem hy
  rw [heq] at hq
  exact ⟨ys, zs, heq, hq.asks⟩

theorem asks_work_of_ends (h : Ends x w world es o after) {t : T} {y : I.Exchange}
    (hy : .worked t y ∈ es) : ∃ xs, (x.work t).Asks xs y.1 := by
  obtain ⟨s, hs, -⟩ := h
  exact asks_work_of_steps hs hy

theorem answers_of_ends (h : Ends x w world es o after) {y : I.Exchange}
    (hy : .asked y ∈ es ∨ ∃ t, .worked t y ∈ es) : ∃ a b, w.answers a y.1 y.2 b := by
  obtain ⟨s, hs, -⟩ := h
  refine answers_of_steps hs y (List.mem_filterMap.mpr ?_)
  rcases hy with hy | ⟨t, hy⟩
  · exact ⟨_, hy, rfl⟩
  · exact ⟨_, hy, rfl⟩

/-- How a search ends. A match is the first one that was stored, and comes from the work on a task of
the producer; a later match or a failure changes nothing. Without a match, the producer ran to its
end, every task was worked on exactly once, and the last failure shows, if there is one. -/
theorem outcome_of_ends {limits : Config.Discovery} {produce : Producer I T}
    {work : T → Work I R} (h : Ends (.within limits produce work) w world es o after) :
    (∀ r, o = .found r → ∃ t, (matchesIn es).head? = some (t, r) ∧ t ∈ pushes es ∧
      Performed work es t (.ok (some r))) ∧
    ((∀ r, o ≠ .found r) → Exhausts produce work es ∧
      o = match (failuresIn es).getLast? with
        | some e => .failed e
        | none => .exhausted) ∧
    (∀ t r, .matched t r ∈ es → ∃ r', o = .found r') := by
  have hverdict := eq_verdict_of_ends h
  refine ⟨?_, ?_, ?_⟩
  · intro r ho
    obtain ⟨t, ht⟩ := verdict_eq_found_iff.mp (hverdict.symm.trans ho)
    exact ⟨t, ht, performed_of_match h (List.mem_of_mem_head? ht)⟩
  · intro ho
    have hex := exhausts_of_ends workers_within_pos h ho
    refine ⟨hex, ?_⟩
    rw [hverdict, verdict, hex.unmatched]
    cases (failuresIn es).getLast? <;> rfl
  · intro t r hm
    have hmem : (t, r) ∈ matchesIn es := List.mem_filterMap.mpr ⟨_, hm, rfl⟩
    cases hhead : (matchesIn es).head? with
    | none => simp [List.head?_eq_none_iff.mp hhead] at hmem
    | some m => exact ⟨m.2, by rw [hverdict, verdict, hhead]⟩

/-- Among these numbers the first even one matches, whatever fails before it; without it, the failure
shows. -/
theorem outcome_of_ends_halves :
    (∃ es, Ends (.within { queueSize := 0 } (produceNumbers [0, 3, 4, 6]) fun n => .call n .ret)
        (.ofHandler halves) () es (.found 2) () ∧
      ∃ t, (matchesIn es).head? = some (t, 2) ∧ t ∈ pushes es ∧
        Performed (fun n => .call n .ret) es t (.ok (some 2))) ∧
    ∃ es, Ends (.within {} (produceNumbers [0, 3]) fun n => .call n .ret)
        (.ofHandler halves) () es (.failed (.connection "zero")) () ∧
      Exhausts (produceNumbers [0, 3]) (fun n => .call n .ret) es := by
  constructor
  · obtain ⟨es, h⟩ := ends_run (h := halves)
      (x := .within { queueSize := 0 } (produceNumbers [0, 3, 4, 6]) fun n => .call n .ret)
      capacity_within_pos workers_within_pos (fun _ => false) ()
    exact ⟨es, h, (outcome_of_ends h).1 2 rfl⟩
  · obtain ⟨es, h⟩ := ends_run (h := halves)
      (x := .within {} (produceNumbers [0, 3]) fun n => .call n .ret)
      capacity_within_pos workers_within_pos (fun _ => false) ()
    exact ⟨es, h, ((outcome_of_ends h).2.1 fun r => nofun).1⟩

end NodeAtlas.Search
