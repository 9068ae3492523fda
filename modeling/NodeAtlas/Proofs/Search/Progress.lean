import Mathlib.Logic.Hydra
import Mathlib.Order.OrderIsoNat
import NodeAtlas.Proofs.Search.Ledger
import NodeAtlas.Proofs.Search.Schedule

/-!
# Progress of searches

The parts of a search never wait for one another in a circle: as long as the search is not over, one
of them can move. Nor do they move for ever. Every step of the producer leaves less of it, a task that
is taken leaves fewer on the queue, and any other step brings a worker closer to its end; no step
undoes what counts for more.
-/

namespace NodeAtlas.Search

open Relation

variable {I : Interface} {T R : Type} {x : Search I T R} {w : World I}

/-! ## Some part can move -/

section Moves

variable {s : State I T R w.State}

theorem exists_step_of_busy (hw : w.Responsive) {i : Nat} {t : T} {rest : Work I R}
    (hi : s.workers[i]? = some (.busy t rest)) : ∃ e s', Step x w s e s' := by
  match rest with
  | .call c next =>
    obtain ⟨r, world, hr⟩ := hw s.world c
    exact ⟨_, _, .worked hi hr⟩
  | .ret (.ok (some r)) => exact ⟨_, _, .matched hi⟩
  | .ret (.ok none) => exact ⟨_, _, .missed hi⟩
  | .ret (.error e) => exact ⟨_, _, .failed hi⟩

/-- While a worker is there, it can move or another one can, if there is a task to take or none will
come. -/
theorem exists_step_of_worker (hw : w.Responsive) {p : Phase I T R} (hp : p ∈ s.workers)
    (hg : ¬ p.isGone) (hq : s.waiting ≠ [] ∨ s.producer = none) : ∃ e s', Step x w s e s' := by
  by_cases hl : ∃ q ∈ s.workers, q.isListening
  · -- Whoever has the turn takes a task or ends.
    obtain ⟨q, hq', hl⟩ := hl
    obtain ⟨i, hi⟩ := List.mem_iff_getElem?.mp hq'
    cases q with
    | listening =>
      cases hwait : s.waiting with
      | nil => exact ⟨_, _, .closed hi hwait (hq.resolve_left fun h => h hwait)⟩
      | cons t ts => exact ⟨_, _, .taken hi hwait⟩
    | _ => exact hl.elim
  · -- Nobody has the turn, so it is free.
    have hfree : ∀ q ∈ s.workers, ¬ q.isListening := fun q hq hl' => hl ⟨q, hq, hl'⟩
    obtain ⟨i, hi⟩ := List.mem_iff_getElem?.mp hp
    cases p with
    | ready => exact ⟨_, _, .listened hi hfree⟩
    | listening => exact (hfree _ hp trivial).elim
    | busy t rest => exact exists_step_of_busy hw hi
    | gone => exact (hg trivial).elim

/-- The producer can move, or a worker makes room for its next task. -/
theorem Orderly.exists_step_of_producer (h : Orderly x s) (hc : 0 < x.capacity)
    (hx : 0 < x.workers) (hw : w.Responsive) {p : Producer I T} (hp : s.producer = some p) :
    ∃ e s', Step x w s e s' := by
  cases hwin : s.winner with
  | some r => exact ⟨_, _, .dropped hp (by rw [hwin]; rfl)⟩
  | none =>
    match p with
    | .ret () => exact ⟨_, _, .produced hp⟩
    | .call (.outer c) next =>
      obtain ⟨r, world, hr⟩ := hw s.world c
      exact ⟨_, _, .answered hp hr⟩
    | .call (.record e) next => exact ⟨_, _, .recorded hp⟩
    | .call .isOver next => exact ⟨_, _, .polled hp⟩
    | .call (.push t) next =>
      by_cases hroom : s.waiting.length < x.capacity
      · exact ⟨_, _, .pushed hp hroom (h.open_of_producer hx hp hwin)⟩
      · have hfull : s.waiting ≠ [] := by
          intro hempty
          rw [hempty] at hroom
          exact hroom hc
        obtain ⟨q, hq⟩ := h.exists_worker hx
        exact exists_step_of_worker hw hq (h.not_gone hp hwin q hq) (.inl hfull)

theorem Orderly.exists_step (h : Orderly x s) (hc : 0 < x.capacity) (hx : 0 < x.workers)
    (hw : w.Responsive) (hf : ¬ s.Final) : ∃ e s', Step x w s e s' := by
  cases hp : s.producer with
  | some p => exact h.exists_step_of_producer hc hx hw hp
  | none =>
    have hj : s.joined = false := by
      cases hj : s.joined with
      | false => rfl
      | true => exact (hf ⟨hj, hp⟩).elim
    by_cases hall : ∀ p ∈ s.workers, p.isGone
    · exact ⟨_, _, .joined hall hj⟩
    · obtain ⟨p, hmem, hg⟩ : ∃ p ∈ s.workers, ¬ p.isGone := by simpa using hall
      exact exists_step_of_worker hw hmem hg (.inr hp)

theorem Orderly.length_inHand_le (h : Orderly x s) : s.inHand.length ≤ x.workers := by
  rw [← h.count]
  exact List.length_filterMap_le ..

end Moves

/-! ## The parts come to an end -/

/-- What is left of a producer after a step of its own. -/
inductive Shorter : Option (Producer I T) → Option (Producer I T) → Prop where
  | answered {c : Call I T} {next : Reply I T c → Producer I T} (r : Reply I T c) :
      Shorter (some (next r)) (some (.call c next))
  /-- The producer is no longer there. -/
  | gone (p : Producer I T) : Shorter none (some p)

theorem shorter_wf : WellFounded (Shorter (I := I) (T := T)) := by
  have hnone : Acc Shorter (none : Option (Producer I T)) := ⟨_, fun q hq => by cases hq⟩
  have hsome : ∀ p : Producer I T, Acc Shorter (some p) := by
    intro p
    induction p with
    | ret u =>
      refine ⟨_, fun q hq => ?_⟩
      cases hq
      exact hnone
    | call c next ih =>
      refine ⟨_, fun q hq => ?_⟩
      cases hq with
      | answered r => exact ih r
      | gone => exact hnone
  refine ⟨fun p => ?_⟩
  cases p with
  | none => exact hnone
  | some p => exact hsome p

/-- The first phase is closer to the end of a worker, as long as it takes no task. -/
inductive Phase.Nearer : Phase I T R → Phase I T R → Prop where
  /-- It gets its turn. -/
  | listened : Nearer .listening .ready
  | ended : Nearer .gone .listening
  /-- A call is answered. -/
  | worked {t : T} {c : I.Call} {next : I.Reply c → Work I R} (r : I.Reply c) :
      Nearer (.busy t (next r)) (.busy t (.call c next))
  /-- It is through with its task and goes on. -/
  | finished (t : T) (res : Result (Option R)) : Nearer .ready (.busy t (.ret res))
  /-- It is through with its task and ends. -/
  | matched (t : T) (res : Result (Option R)) : Nearer .gone (.busy t (.ret res))

theorem Phase.nearer_wf : WellFounded (Phase.Nearer (I := I) (T := T) (R := R)) := by
  have hgone : Acc Nearer (.gone : Phase I T R) := ⟨_, fun q hq => by cases hq⟩
  have hlistening : Acc Nearer (.listening : Phase I T R) := by
    refine ⟨_, fun q hq => ?_⟩
    cases hq
    exact hgone
  have hready : Acc Nearer (.ready : Phase I T R) := by
    refine ⟨_, fun q hq => ?_⟩
    cases hq
    exact hlistening
  have hbusy : ∀ (t : T) (p : Work I R), Acc Nearer (.busy t p) := by
    intro t p
    induction p with
    | ret res =>
      refine ⟨_, fun q hq => ?_⟩
      cases hq with
      | finished => exact hready
      | matched => exact hgone
    | call c next ih =>
      refine ⟨_, fun q hq => ?_⟩
      cases hq with
      | worked r => exact ih r
  refine ⟨fun p => ?_⟩
  cases p with
  | ready => exact hready
  | listening => exact hlistening
  | busy t p => exact hbusy t p
  | gone => exact hgone

/-- What counts in a state for how far the search has come: first the producer, then the queue, then
the workers, whose order does not matter, and last the caller. -/
def State.left {W : Type} (s : State I T R W) :
    Option (Producer I T) × Nat × Multiset (Phase I T R) × Nat :=
  (s.producer, s.waiting.length, s.workers, if s.joined then 0 else 1)

/-- Less is left of a search. -/
def Less : Option (Producer I T) × Nat × Multiset (Phase I T R) × Nat →
    Option (Producer I T) × Nat × Multiset (Phase I T R) × Nat → Prop :=
  Prod.Lex Shorter (Prod.Lex (· < ·) (Prod.Lex (CutExpand Phase.Nearer) (· < ·)))

theorem less_wf : WellFounded (Less (I := I) (T := T) (R := R)) :=
  shorter_wf.prod_lex (Nat.lt_wfRel.wf.prod_lex (Phase.nearer_wf.cutExpand.prod_lex
    Nat.lt_wfRel.wf))

theorem cutExpand_set {ps : List (Phase I T R)} {i : Nat} {a b : Phase I T R}
    (hi : ps[i]? = some a) (h : b.Nearer a) :
    CutExpand Phase.Nearer (ps.set i b : Multiset (Phase I T R)) ps := by
  refine ⟨{b}, a, ?_, ?_⟩
  · intro p hp
    rwa [Multiset.mem_singleton.mp hp]
  · have hperm : ((a :: ps.set i b : List _) : Multiset (Phase I T R)) = (b :: ps : List _) :=
      Multiset.coe_eq_coe.mpr (perm_set hi)
    rw [← Multiset.cons_coe, ← Multiset.cons_coe] at hperm
    rwa [Multiset.add_comm _ {a}, Multiset.add_comm _ {b}, Multiset.singleton_add,
      Multiset.singleton_add]

section Left

variable {s s' : State I T R w.State} {e : Event I T R}

theorem less_of_producer (h : Shorter s'.producer s.producer) : Less s'.left s.left :=
  .left _ _ h

theorem less_of_worker {i : Nat} {a b : Phase I T R} (hi : s.workers[i]? = some a)
    (h : b.Nearer a) (hp : s'.producer = s.producer) (hq : s'.waiting = s.waiting)
    (hw : s'.workers = s.workers.set i b) : Less s'.left s.left := by
  have hless := cutExpand_set hi h
  rw [← hw] at hless
  unfold State.left Less
  rw [hp, hq]
  exact .right _ (.right _ (.left _ _ hless))

/-- Every step leaves less of a search. -/
theorem less_of_step (hs : Step x w s e s') : Less s'.left s.left := by
  cases hs with
  | answered hp _ => exact less_of_producer (hp ▸ .answered (c := .outer _) _)
  | pushed hp _ _ => exact less_of_producer (hp ▸ .answered (c := .push _) true)
  | refused hp _ => exact less_of_producer (hp ▸ .answered (c := .push _) false)
  | recorded hp => exact less_of_producer (hp ▸ .answered (c := .record _) ())
  | polled hp => exact less_of_producer (hp ▸ .answered (c := .isOver) _)
  | produced hp => exact less_of_producer (hp ▸ .gone _)
  | dropped hp _ => exact less_of_producer (hp ▸ .gone _)
  | listened hi _ => exact less_of_worker hi .listened rfl rfl rfl
  | @taken i t ts hi hq =>
    -- The worker now has more before it, but the queue counts for more.
    refine .right _ (.left _ _ ?_)
    show ts.length < s.waiting.length
    rw [hq]
    exact Nat.lt_succ_self ts.length
  | left hi _ => exact less_of_worker hi .ended rfl rfl rfl
  | closed hi _ _ => exact less_of_worker hi .ended rfl rfl rfl
  | worked hi _ => exact less_of_worker hi (.worked _) rfl rfl rfl
  | matched hi => exact less_of_worker hi (.matched _ _) rfl rfl rfl
  | missed hi => exact less_of_worker hi (.finished _ _) rfl rfl rfl
  | failed hi => exact less_of_worker hi (.finished _ _) rfl rfl rfl
  | joined _ hj =>
    refine .right _ (.right _ (.right _ ?_))
    show (if true then 0 else 1) < if s.joined then 0 else 1
    simp [hj]

end Left

theorem step_wf (x : Search I T R) (w : World I) :
    WellFounded fun s' s : State I T R w.State => ∃ e, Step x w s e s' :=
  Subrelation.wf (fun ⟨_, h⟩ => less_of_step h) (InvImage.wf State.left less_wf)

/-! ## Every search comes to its end -/

/-- A search in a world that answers every call comes to its end: in every state it can reach, some
part can move until all is over, no sequence of steps goes on for ever, and neither the queue nor the
number of tasks in hand exceeds its limit, of which zero counts as one. -/
theorem within_comes_to_end {limits : Config.Discovery} {produce : Producer I T}
    {work : T → Work I R} (hw : w.Responsive) (world : w.State) :
    (∀ es s, Steps (.within limits produce work) w (.start (.within limits produce work) world)
        es s → ¬ s.Final → ∃ e s', Step (.within limits produce work) w s e s') ∧
    (¬ ∃ run : Nat → State I T R w.State, run 0 = .start (.within limits produce work) world ∧
        ∀ n, ∃ e, Step (.within limits produce work) w (run n) e (run (n + 1))) ∧
    ∀ es s, Steps (.within limits produce work) w (.start (.within limits produce work) world)
        es s → s.waiting.length ≤ max limits.queueSize.toNat 1 ∧
          s.inHand.length ≤ max limits.poolSize.toNat 1 := by
  refine ⟨?_, ?_, ?_⟩
  · intro es s hs hf
    exact (orderly_of_steps hs).exists_step capacity_within_pos workers_within_pos hw hf
  · rintro ⟨run, -, hrun⟩
    have hwf := step_wf (.within limits produce work) w
    exact (wellFounded_iff_isEmpty_descending_chain.mp hwf).false ⟨run, hrun⟩
  · intro es s hs
    have h := orderly_of_steps hs
    exact ⟨h.room, h.length_inHand_le⟩

/-- With limits of zero, numbers still go through the queue one by one. -/
theorem within_comes_to_end_halves :
    (World.ofHandler halves).Responsive ∧
      let x : Search _ Nat Nat :=
        .within { poolSize := 0, queueSize := 0 } (produceNumbers [0, 3, 4, 6]) fun n => .call n .ret
      (∀ es s, Steps x (.ofHandler halves) (.start x ()) es s → ¬ s.Final →
        ∃ e s', Step x (.ofHandler halves) s e s') ∧
      (¬ ∃ run : Nat → State _ Nat Nat Unit, run 0 = .start x () ∧
        ∀ n, ∃ e, Step x (.ofHandler halves) (run n) e (run (n + 1))) ∧
      ∀ es s, Steps x (.ofHandler halves) (.start x ()) es s →
        s.waiting.length ≤ 1 ∧ s.inHand.length ≤ 1 :=
  ⟨World.responsive_ofHandler halves, within_comes_to_end (World.responsive_ofHandler halves) ()⟩

end NodeAtlas.Search
