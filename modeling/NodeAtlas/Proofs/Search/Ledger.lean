import Mathlib.Data.List.Perm.Basic
import NodeAtlas.Proofs.Search.Order

/-!
# The ledger of a search

What the trace of a search has to do with its state. Every task that was put on the queue is waiting
there, in the hands of a worker or finished; the winner is the first match in the trace and the
failure the last one; and producer and workers have come as far as their exchanges in the trace say.
-/

namespace NodeAtlas.Search

open Protocol

variable {I : Interface} {T R W : Type} {x : Search I T R} {w : World I}

/-- Replacing an entry of a list exchanges it for the new one. -/
theorem perm_set {α : Type} {l : List α} {i : Nat} {a b : α} (h : l[i]? = some a) :
    (a :: l.set i b).Perm (b :: l) := by
  obtain ⟨hi, rfl⟩ := List.getElem?_eq_some_iff.mp h
  calc l[i] :: l.set i b
      _ |>.Perm (l[i] :: b :: l.eraseIdx i) := (List.set_perm_cons_eraseIdx hi b).cons _
      _ |>.Perm (b :: l[i] :: l.eraseIdx i) := .swap ..
      _ |>.Perm (b :: l) := (List.getElem_cons_eraseIdx_perm hi).cons _

/-- What a worker that changes its phase gives up and takes up. -/
theorem perm_inHand {ps : List (Phase I T R)} {i : Nat} {a : Phase I T R}
    (h : ps[i]? = some a) (b : Phase I T R) :
    (b.task?.toList ++ ps.filterMap Phase.task?).Perm
      (a.task?.toList ++ (ps.set i b).filterMap Phase.task?) := by
  have hset := ((perm_set (b := b) h).filterMap Phase.task?).symm
  cases ha : a.task? <;> cases hb : b.task? <;>
    simpa [List.filterMap_cons, ha, hb] using hset

theorem filterMap_concat {α β : Type} (f : α → Option β) (l : List α) (a : α) :
    (l ++ [a]).filterMap f = l.filterMap f ++ (f a).toList := by
  cases hf : f a <;> simp [hf]

/-! ## Tasks -/

/-- Every task is somewhere. -/
structure Accounted (es : List (Event I T R)) (s : State I T R W) : Prop where
  /-- Tasks leave the queue in the order in which they came. -/
  queue : pushes es = takes es ++ s.waiting
  /-- A task that was taken is in hand until its work ends. -/
  hands : (takes es).Perm (finishes es ++ s.inHand)

theorem accounted_start (x : Search I T R) (world : W) : Accounted [] (.start x world) := by
  refine ⟨rfl, ?_⟩
  simp [State.start, State.inHand, Phase.task?, List.filterMap_replicate]

section Steps

variable {s s' : State I T R w.State} {e : Event I T R} {es : List (Event I T R)}

/-- The next event says what comes to the queue and leaves it, and what is taken in hand and given
up. -/
theorem Accounted.next (h : Accounted es s)
    (hq : s.waiting ++ e.pushed?.toList = e.taken?.toList ++ s'.waiting)
    (hh : (e.taken?.toList ++ s.inHand).Perm (e.finished?.toList ++ s'.inHand)) :
    Accounted (es ++ [e]) s' := by
  refine ⟨?_, ?_⟩
  · have hqueue : es.filterMap Event.pushed? = es.filterMap Event.taken? ++ s.waiting := h.queue
    rw [pushes, takes, filterMap_concat, filterMap_concat, hqueue, List.append_assoc, hq,
      List.append_assoc]
  · rw [takes, finishes, filterMap_concat, filterMap_concat]
    calc takes es ++ e.taken?.toList
        _ |>.Perm (finishes es ++ s.inHand ++ e.taken?.toList) := h.hands.append_right _
        _ |>.Perm (finishes es ++ (e.taken?.toList ++ s.inHand)) := by
          rw [List.append_assoc]
          exact List.perm_append_comm.append_left _
        _ |>.Perm (finishes es ++ (e.finished?.toList ++ s'.inHand)) := hh.append_left _
        _ |>.Perm (finishes es ++ e.finished?.toList ++ s'.inHand) := by rw [List.append_assoc]

theorem Accounted.step (h : Accounted es s) (hs : Step x w s e s') : Accounted (es ++ [e]) s' := by
  have hsame : s.waiting ++ [] = s.waiting := List.append_nil _
  cases hs with
  | answered _ _ => exact h.next hsame (.refl _)
  | pushed _ _ _ => exact h.next rfl (.refl _)
  | refused _ _ => exact h.next hsame (.refl _)
  | recorded _ => exact h.next hsame (.refl _)
  | polled _ => exact h.next hsame (.refl _)
  | produced _ => exact h.next hsame (.refl _)
  | dropped _ _ => exact h.next hsame (.refl _)
  | listened hi _ => exact h.next hsame (perm_inHand hi .listening)
  | taken hi hq => exact h.next (hsame.trans hq) (perm_inHand hi (.busy _ _))
  | left hi _ => exact h.next hsame (perm_inHand hi .gone)
  | closed hi _ _ => exact h.next hsame (perm_inHand hi .gone)
  | worked hi _ => exact h.next hsame (perm_inHand hi (.busy _ _)).cons_inv
  | matched hi => exact h.next hsame (perm_inHand hi .gone)
  | missed hi => exact h.next hsame (perm_inHand hi .ready)
  | failed hi => exact h.next hsame (perm_inHand hi .ready)
  | joined _ _ => exact h.next hsame (.refl _)

theorem accounted_of_steps {world : w.State} (h : Steps x w (.start x world) es s) :
    Accounted es s := by
  induction h with
  | refl => exact accounted_start x world
  | tail _ hstep ih => exact ih.step hstep

/-! ## Matches and failures -/

/-- The winner is the first match and the failure is the last one. -/
def Scored (es : List (Event I T R)) (s : State I T R w.State) : Prop :=
  s.winner = (matchesIn es).head?.map Prod.snd ∧ s.failure = (failuresIn es).getLast?

theorem Scored.step (h : Scored es s) (hs : Step x w s e s') : Scored (es ++ [e]) s' := by
  obtain ⟨hw, hf⟩ := h
  cases hs with
  | recorded _ => exact ⟨by simpa [Event.match?] using hw, by simp [Event.failure?]⟩
  | failed _ => exact ⟨by simpa [Event.match?] using hw, by simp [Event.failure?]⟩
  | @matched i t r _ =>
    -- A match that comes after another one changes neither side.
    refine ⟨?_, by simpa [Event.failure?] using hf⟩
    have hmatches : matchesIn (es ++ [.matched t r]) = matchesIn es ++ [(t, r)] :=
      filterMap_concat Event.match? es _
    show s.winner.or (some r) = _
    rw [hmatches, List.head?_append, hw]
    cases (matchesIn es).head? <;> rfl
  | _ => exact ⟨by simpa [Event.match?] using hw, by simpa [Event.failure?] using hf⟩

theorem scored_of_steps {world : w.State} (h : Steps x w (.start x world) es s) :
    Scored es s := by
  induction h with
  | refl => exact ⟨rfl, rfl⟩
  | tail _ hstep ih => exact ih.step hstep

theorem Scored.outcome_eq (h : Scored es s) : s.outcome = verdict es := by
  rw [State.outcome, verdict, h.1, h.2]
  cases (matchesIn es).head? <;> cases (failuresIn es).getLast? <;> rfl

/-! ## The producer -/

/-- The producer has come as far as its exchanges say. -/
structure Followed (x : Search I T R) (es : List (Event I T R)) (s : State I T R w.State) :
    Prop where
  /-- What is left of the producer, unless it was dropped. -/
  reached : ∃ q, x.produce.Reaches (exchanges es) q ∧ (s.producer = some q ∨
    s.producer = none ∧ (s.winner = none → q = .ret () ∧ .produced ∈ es))
  /-- Without a match, nobody tells the producer to stop. -/
  unhurried : s.winner = none → ∀ y ∈ exchanges es, Unhurried y

/-- A step of the producer: the event is the answer to its call. -/
theorem Followed.answer (h : Followed x es s) {c : Call I T} {next : Reply I T c → Producer I T}
    (hp : s.producer = some (.call c next)) {r : Reply I T c} (he : e.exchange? = some ⟨c, r⟩)
    (hp' : s'.producer = some (next r)) (hw : s'.winner = s.winner)
    (hu : s.winner = none → Unhurried (⟨c, r⟩ : (interface I T).Exchange)) :
    Followed x (es ++ [e]) s' := by
  have hes : exchanges (es ++ [e]) = exchanges es ++ [⟨c, r⟩] := by
    rw [exchanges, filterMap_concat, he, Option.toList]
  obtain ⟨q, hq, hs⟩ := h.reached
  have hsome : s.producer = some q := hs.resolve_right fun hc => by simp [hp] at hc
  obtain rfl : Protocol.call c next = q := Option.some.inj (hp.symm.trans hsome)
  refine ⟨⟨next r, ?_, .inl hp'⟩, ?_⟩
  · rw [hes]
    exact hq.answer r
  · intro hwin y hy
    rw [hw] at hwin
    rw [hes] at hy
    rcases List.mem_append.mp hy with hy | hy
    · exact h.unhurried hwin y hy
    · rw [List.mem_singleton.mp hy]
      exact hu hwin

/-- A step that the producer does not see. -/
theorem Followed.skip (h : Followed x es s) (he : e.exchange? = none)
    (hp : s'.producer = s.producer) (hw : s'.winner = none → s.winner = none) :
    Followed x (es ++ [e]) s' := by
  have hes : exchanges (es ++ [e]) = exchanges es := by
    rw [exchanges, filterMap_concat, he, Option.toList, List.append_nil]
  obtain ⟨q, hq, hs⟩ := h.reached
  refine ⟨⟨q, by rwa [hes], ?_⟩, fun hwin => by rw [hes]; exact h.unhurried (hw hwin)⟩
  rw [hp]
  rcases hs with hs | ⟨hnone, hend⟩
  · exact .inl hs
  · refine .inr ⟨hnone, fun hwin => ?_⟩
    obtain ⟨hq, hmem⟩ := hend (hw hwin)
    exact ⟨hq, List.mem_append_left _ hmem⟩

/-- The producer is no longer there: it has ended, or there is a match. -/
theorem Followed.stop (h : Followed x es s) {p : Producer I T} (hp : s.producer = some p)
    (he : e.exchange? = none) (hp' : s'.producer = none) (hw : s'.winner = s.winner)
    (hend : s.winner = none → p = .ret () ∧ e = .produced) : Followed x (es ++ [e]) s' := by
  have hes : exchanges (es ++ [e]) = exchanges es := by
    rw [exchanges, filterMap_concat, he, Option.toList, List.append_nil]
  obtain ⟨q, hq, hs⟩ := h.reached
  have hsome : s.producer = some q := hs.resolve_right fun hc => by simp [hp] at hc
  obtain rfl : p = q := Option.some.inj (hp.symm.trans hsome)
  refine ⟨⟨p, by rwa [hes], .inr ⟨hp', fun hwin => ?_⟩⟩,
    fun hwin => by rw [hes]; exact h.unhurried (hw ▸ hwin)⟩
  exact (hend (hw ▸ hwin)).imp_right fun h => by simp [h]

theorem Followed.step (h : Followed x es s) (ho : Orderly x s) (hx : 0 < x.workers)
    (hs : Step x w s e s') : Followed x (es ++ [e]) s' := by
  have hnone : ∀ {p : Producer I T}, s.producer = some p → s.winner = none → s.joined = false :=
    fun hp hw => ho.open_of_producer hx hp hw
  cases hs with
  | answered hp _ => exact h.answer hp rfl rfl rfl fun _ => trivial
  | pushed hp _ _ => exact h.answer hp rfl rfl rfl fun _ => rfl
  | refused hp hover =>
    refine h.answer hp rfl rfl rfl fun hwin => ?_
    simp [hwin, hnone hp hwin] at hover
  | recorded hp => exact h.answer hp rfl rfl rfl fun _ => trivial
  | polled hp =>
    refine h.answer hp rfl rfl rfl fun hwin => ?_
    simp [Unhurried, hwin, hnone hp hwin]
  | produced hp => exact h.stop hp rfl rfl rfl fun _ => ⟨rfl, rfl⟩
  | dropped hp hover => exact h.stop hp rfl rfl rfl fun hwin => by simp [hwin] at hover
  | matched _ => exact h.skip rfl rfl fun hwin => (Option.or_eq_none_iff.mp hwin).1
  | _ => exact h.skip rfl rfl id

theorem followed_of_steps {world : w.State} (hx : 0 < x.workers)
    (h : Steps x w (.start x world) es s) : Followed x es s := by
  induction h with
  | refl => exact ⟨⟨x.produce, .refl _, .inl rfl⟩, by simp⟩
  | tail hsteps hstep ih => exact ih.step (orderly_of_steps hsteps) hx hstep

/-! ## The workers -/

/-- The trace up to now holds the beginning of the work on a task. -/
def Begun (work : T → Work I R) (es : List (Event I T R)) (t : T) (rest : Work I R) : Prop :=
  ∃ xs, (work t).Reaches xs rest ∧ (Event.taken t :: xs.map (Event.worked t)).Sublist es

/-- The workers have come as far as the trace says. -/
structure Worked (x : Search I T R) (es : List (Event I T R)) (s : State I T R w.State) :
    Prop where
  /-- The work that is left belongs to a task that was taken. -/
  ongoing : ∀ t rest, .busy t rest ∈ s.workers → Begun x.work es t rest
  /-- Every end of the work on a task comes after all of that work. -/
  ended : ∀ t res, .ofResult t res ∈ es → Performed x.work es t res

/-- A worker that is in the middle of something moves on. -/
theorem Worked.move (h : Worked x es s) {i : Nat} {b : Phase I T R}
    (hw : s'.workers = s.workers.set i b)
    (hb : ∀ t rest, b = .busy t rest → Begun x.work (es ++ [e]) t rest)
    (he : ∀ t res, .ofResult t res = e → Performed x.work (es ++ [e]) t res) :
    Worked x (es ++ [e]) s' := by
  have hsub : es.Sublist (es ++ [e]) := List.sublist_append_left ..
  refine ⟨?_, ?_⟩
  · intro t rest hp
    rw [hw] at hp
    rcases List.mem_or_eq_of_mem_set hp with hp | hp
    · obtain ⟨xs, hxs, hes⟩ := h.ongoing t rest hp
      exact ⟨xs, hxs, hes.trans hsub⟩
    · exact hb t rest hp.symm
  · intro t res hmem
    rcases List.mem_append.mp hmem with hmem | hmem
    · obtain ⟨xs, hxs, hes⟩ := h.ended t res hmem
      exact ⟨xs, hxs, hes.trans hsub⟩
    · exact he t res (List.mem_singleton.mp hmem)

theorem ofResult_inj {t t' : T} {res res' : Result (Option R)}
    (h : (Event.ofResult t res : Event I T R) = .ofResult t' res') : t = t' ∧ res = res' := by
  rcases res with e | _ | r <;> rcases res' with e' | _ | r' <;> simp_all [Event.ofResult]

theorem ofResult_ne {t : T} {res : Result (Option R)} (he : e.finished? = none) :
    Event.ofResult t res ≠ e := by
  rintro rfl
  rcases res with e' | _ | r <;> cases he

theorem begun_of_idle {work : T → Work I R} {b : Phase I T R} (hb : b.task? = none) :
    ∀ t rest, b = .busy t rest → Begun work es t rest := by
  rintro t rest rfl
  cases hb

theorem Worked.finish (h : Worked x es s) {i : Nat} {t : T} {res : Result (Option R)}
    {b : Phase I T R} (hi : s.workers[i]? = some (.busy t (.ret res)))
    (hw : s'.workers = s.workers.set i b) (hb : b.task? = none) :
    Worked x (es ++ [.ofResult t res]) s' := by
  refine h.move hw (begun_of_idle hb) fun t' res' heq => ?_
  obtain ⟨rfl, rfl⟩ := ofResult_inj heq
  obtain ⟨xs, hxs, hes⟩ := h.ongoing _ _ (List.mem_of_getElem? hi)
  exact ⟨xs, hxs.yields, hes.append (.refl _)⟩

theorem Worked.skip (h : Worked x es s) (hw : s'.workers = s.workers) (he : e.finished? = none) :
    Worked x (es ++ [e]) s' := by
  have hset : s'.workers = s.workers.set s.workers.length .gone := by
    rw [hw, List.set_eq_of_length_le (Nat.le_refl _)]
  exact h.move hset (begun_of_idle rfl) fun t res hr => (ofResult_ne he hr).elim

theorem Worked.step (h : Worked x es s) (hs : Step x w s e s') : Worked x (es ++ [e]) s' := by
  cases hs with
  | listened _ _ => exact h.move rfl (begun_of_idle rfl) fun t res hr => (ofResult_ne rfl hr).elim
  | taken _ _ =>
    refine h.move rfl (fun t rest hb => ?_) fun t res hr => (ofResult_ne rfl hr).elim
    obtain ⟨rfl, rfl⟩ := Phase.busy.inj hb
    exact ⟨[], .refl _, List.sublist_append_right ..⟩
  | left _ _ => exact h.move rfl (begun_of_idle rfl) fun t res hr => (ofResult_ne rfl hr).elim
  | closed _ _ _ => exact h.move rfl (begun_of_idle rfl) fun t res hr => (ofResult_ne rfl hr).elim
  | worked hi _ =>
    refine h.move rfl (fun t rest hb => ?_) fun t res hr => (ofResult_ne rfl hr).elim
    obtain ⟨rfl, rfl⟩ := Phase.busy.inj hb
    obtain ⟨xs, hxs, hes⟩ := h.ongoing _ _ (List.mem_of_getElem? hi)
    refine ⟨xs ++ [_], hxs.answer _, ?_⟩
    rw [List.map_append, ← List.cons_append]
    exact hes.append (.refl _)
  | matched hi => exact h.finish hi rfl rfl
  | missed hi => exact h.finish hi rfl rfl
  | failed hi => exact h.finish hi rfl rfl
  | _ => exact h.skip rfl rfl

theorem worked_of_steps {world : w.State} (h : Steps x w (.start x world) es s) :
    Worked x es s := by
  induction h with
  | refl =>
    refine ⟨fun t rest hp => ?_, by simp⟩
    cases List.eq_of_mem_replicate hp
  | tail _ hstep ih => exact ih.step hstep

/-- A call of a worker is one of the work on its task. -/
theorem asks_work_of_steps {world : w.State} (h : Steps x w (.start x world) es s) {t : T}
    {y : I.Exchange} (hy : .worked t y ∈ es) : ∃ xs, (x.work t).Asks xs y.1 := by
  induction h with
  | refl => cases hy
  | tail hsteps hstep ih =>
    rcases List.mem_append.mp hy with hy | hy
    · exact ih hy
    · rw [List.mem_singleton] at hy
      subst hy
      cases hstep with
      | worked hi _ =>
        obtain ⟨xs, hxs, -⟩ := (worked_of_steps hsteps).ongoing _ _ (List.mem_of_getElem? hi)
        exact ⟨xs, (hxs.answer _).asks⟩

/-! ## The world -/

theorem answers_of_steps {world : w.State} (h : Steps x w (.start x world) es s) :
    ∀ y ∈ es.filterMap answered?, ∃ a b, w.answers a y.1 y.2 b := by
  induction h with
  | refl => simp
  | tail _ hstep ih =>
    intro y hy
    rw [filterMap_concat] at hy
    rcases List.mem_append.mp hy with hy | hy
    · exact ih y hy
    · cases hstep with
      | answered _ hw =>
        obtain rfl := List.mem_singleton.mp hy
        exact ⟨_, _, hw⟩
      | worked _ hw =>
        obtain rfl := List.mem_singleton.mp hy
        exact ⟨_, _, hw⟩
      | _ => cases hy

end Steps

end NodeAtlas.Search
