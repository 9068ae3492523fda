import NodeAtlas.Search.Trace

/-!
# The order among producer, workers and caller

The invariant of a search as a system of parts that wait for one another. A worker ends before there
is a match only when the producer has ended and the queue is empty, so no task is ever left behind.
-/

namespace NodeAtlas.Search

variable {I : Interface} {T R W : Type} {x : Search I T R} {w : World I}

/-- What holds of the parts of a search in each of its states. -/
structure Orderly (x : Search I T R) (s : State I T R W) : Prop where
  /-- Workers only change their phase. -/
  count : s.workers.length = x.workers
  /-- The queue holds no more tasks than it may. -/
  room : s.waiting.length ≤ x.capacity
  /-- Without a match, a worker ends only when nothing is left and nothing will come. -/
  gone : s.winner = none → ∀ p ∈ s.workers, p.isGone → s.producer = none ∧ s.waiting = []
  /-- The caller goes on only when all workers have ended. -/
  joined : s.joined = true → ∀ p ∈ s.workers, p.isGone

theorem workers_within_pos {limits : Config.Discovery} {produce : Producer I T}
    {work : T → Work I R} : 0 < (Search.within limits produce work).workers :=
  Nat.lt_of_lt_of_le Nat.zero_lt_one (Nat.le_max_right ..)

theorem capacity_within_pos {limits : Config.Discovery} {produce : Producer I T}
    {work : T → Work I R} : 0 < (Search.within limits produce work).capacity :=
  Nat.lt_of_lt_of_le Nat.zero_lt_one (Nat.le_max_right ..)

theorem orderly_start (x : Search I T R) (world : W) : Orderly x (.start x world) := by
  refine ⟨by simp [State.start], by simp [State.start], ?_, by simp [State.start]⟩
  intro _ p hp hg
  have hready : p = .ready := List.eq_of_mem_replicate hp
  rw [hready] at hg
  exact hg.elim

section Parts

variable {s : State I T R W}

/-- While the producer goes on and there is no match, all workers are there. -/
theorem Orderly.not_gone (h : Orderly x s) {p : Producer I T} (hp : s.producer = some p)
    (hw : s.winner = none) : ∀ q ∈ s.workers, ¬ q.isGone := by
  intro q hq hg
  have hnone := (h.gone hw q hq hg).1
  rw [hp] at hnone
  cases hnone

theorem Orderly.not_joined (h : Orderly x s) {p : Phase I T R} (hp : p ∈ s.workers)
    (hg : ¬ p.isGone) : s.joined = false := by
  cases hj : s.joined with
  | false => rfl
  | true => exact (hg (h.joined hj p hp)).elim

theorem Orderly.exists_worker (h : Orderly x s) (hx : 0 < x.workers) : ∃ p, p ∈ s.workers := by
  have hlen := h.count
  exact List.exists_mem_of_length_pos (by omega)

/-- While the producer goes on and there is no match, the caller waits. -/
theorem Orderly.open_of_producer (h : Orderly x s) (hx : 0 < x.workers) {p : Producer I T}
    (hp : s.producer = some p) (hw : s.winner = none) : s.joined = false := by
  obtain ⟨q, hq⟩ := h.exists_worker hx
  exact h.not_joined hq (h.not_gone hp hw q hq)

/-- A worker that is in the middle of something moves on. -/
theorem Orderly.move (h : Orderly x s) {i : Nat} {a b : Phase I T R} {s' : State I T R W}
    (hi : s.workers[i]? = some a) (ha : ¬ a.isGone) (hw : s'.workers = s.workers.set i b)
    (hj : s'.joined = s.joined) (hq : s'.waiting.length ≤ x.capacity)
    (hs : s'.winner = none → (∃ p ∈ s.workers, p.isGone) ∨ b.isGone →
      s'.producer = none ∧ s'.waiting = []) : Orderly x s' := by
  have hopen := h.not_joined (List.mem_of_getElem? hi) ha
  refine ⟨by rw [hw, List.length_set, h.count], hq, ?_, ?_⟩
  · intro hwin p hp hg
    rw [hw] at hp
    rcases List.mem_or_eq_of_mem_set hp with hp | rfl
    · exact hs hwin (.inl ⟨p, hp, hg⟩)
    · exact hs hwin (.inr hg)
  · intro hc
    rw [hj, hopen] at hc
    cases hc

/-- A worker moves on without ending, and the queue stays as it is. -/
theorem Orderly.turn (h : Orderly x s) {i : Nat} {a b : Phase I T R} {s' : State I T R W}
    (hi : s.workers[i]? = some a) (hw : s'.workers = s.workers.set i b) (ha : ¬ a.isGone)
    (hb : ¬ b.isGone) (hj : s'.joined = s.joined) (hq : s'.waiting = s.waiting)
    (hp : s'.producer = s.producer) (hwin : s'.winner = s.winner) :
    Orderly x s' := by
  refine h.move hi ha hw hj (hq ▸ h.room) fun hnone hg => ?_
  obtain ⟨p, hmem, hp'⟩ := hg.resolve_right hb
  rw [hp, hq]
  exact h.gone (hwin ▸ hnone) p hmem hp'

end Parts

variable {s s' : State I T R w.State} {e : Event I T R} {es : List (Event I T R)}

theorem Orderly.step (h : Orderly x s) (hs : Step x w s e s') : Orderly x s' := by
  -- A producer that makes a step is still there, so without a match nobody has ended.
  have hproducer : ∀ {p : Producer I T}, s.producer = some p → ∀ {P : Prop}, s.winner = none →
      ∀ q ∈ s.workers, q.isGone → P := fun hp _ hw q hq hg => (h.not_gone hp hw q hq hg).elim
  cases hs with
  | answered hp _ => exact ⟨h.count, h.room, hproducer hp, h.joined⟩
  | pushed hp hroom _ =>
    refine ⟨h.count, ?_, hproducer hp, h.joined⟩
    simpa using Nat.succ_le_of_lt hroom
  | refused hp _ => exact ⟨h.count, h.room, hproducer hp, h.joined⟩
  | recorded hp => exact ⟨h.count, h.room, hproducer hp, h.joined⟩
  | polled hp => exact ⟨h.count, h.room, hproducer hp, h.joined⟩
  | produced hp => exact ⟨h.count, h.room, hproducer hp, h.joined⟩
  | dropped hp _ => exact ⟨h.count, h.room, hproducer hp, h.joined⟩
  | listened hi _ => exact h.turn hi rfl (fun hg => hg) (fun hg => hg) rfl rfl rfl rfl
  | taken hi hq =>
    have hroom := h.room
    rw [hq, List.length_cons] at hroom
    refine h.move hi (fun hg => hg) rfl rfl (Nat.le_of_succ_le hroom) fun hw hg => ?_
    obtain ⟨p, hp, hgone⟩ := hg.resolve_right fun hg => hg
    have hempty := (h.gone hw p hp hgone).2
    rw [hq] at hempty
    cases hempty
  | left hi hover =>
    refine h.move hi (fun hg => hg) rfl rfl h.room fun hw _ => ?_
    change s.winner = none at hw
    simp [hw] at hover
  | closed hi hq hp => exact h.move hi (fun hg => hg) rfl rfl h.room fun _ _ => ⟨hp, hq⟩
  | worked hi _ => exact h.turn hi rfl (fun hg => hg) (fun hg => hg) rfl rfl rfl rfl
  | matched hi =>
    refine h.move hi (fun hg => hg) rfl rfl h.room fun hw _ => ?_
    simp at hw
  | missed hi => exact h.turn hi rfl (fun hg => hg) (fun hg => hg) rfl rfl rfl rfl
  | failed hi => exact h.turn hi rfl (fun hg => hg) (fun hg => hg) rfl rfl rfl rfl
  | joined hall _ => exact ⟨h.count, h.room, h.gone, fun _ => hall⟩

theorem orderly_of_steps {world : w.State} (h : Steps x w (.start x world) es s) : Orderly x s := by
  induction h with
  | refl => exact orderly_start x world
  | tail _ hstep ih => exact ih.step hstep

end NodeAtlas.Search
