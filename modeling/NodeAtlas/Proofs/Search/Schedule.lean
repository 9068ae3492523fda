import NodeAtlas.Proofs.Search.Order

/-!
# The schedule as one of the runs

The schedule that runs a search, the producer first until it has to wait and then the tasks in their
order, is one of the ways in which the parts of the search can move. What holds of all of them
therefore holds of every search that is run.
-/

namespace NodeAtlas.Search

open Protocol

variable {I : Interface} {T R σ : Type} {x : Search I T R}

/-! ## Composing steps -/

section Compose

variable {w : World I} {s₁ s₂ s₃ : State I T R w.State} {es fs : List (Event I T R)}

theorem Steps.trans (h₁ : Steps x w s₁ es s₂) (h₂ : Steps x w s₂ fs s₃) :
    Steps x w s₁ (es ++ fs) s₃ := by
  induction h₂ with
  | refl => simpa using h₁
  | tail _ hstep ih =>
    rw [← List.append_assoc]
    exact .tail ih hstep

def Leads (x : Search I T R) (w : World I) (s s' : State I T R w.State) : Prop :=
  ∃ es, Steps x w s es s'

theorem Leads.refl (s : State I T R w.State) : Leads x w s s := ⟨[], .refl s⟩

theorem Leads.trans (h₁ : Leads x w s₁ s₂) (h₂ : Leads x w s₂ s₃) : Leads x w s₁ s₃ := by
  obtain ⟨es, h₁⟩ := h₁
  obtain ⟨fs, h₂⟩ := h₂
  exact ⟨es ++ fs, h₁.trans h₂⟩

theorem Leads.step {e : Event I T R} (h : Step x w s₁ e s₂) : Leads x w s₁ s₂ :=
  ⟨[e], .tail (.refl _) h⟩

end Compose

/-! ## The end -/

/-- Neither in hand nor about to take a task. -/
def Phase.IsResting (p : Phase I T R) : Prop := p = .ready ∨ p = .gone

/-- A worker that is ready ends once there is a match, or once no task is left and none will come. -/
theorem leads_end {w : World I} (s : State I T R w.State)
    (hover : s.winner.isSome ∨ s.producer = none ∧ s.waiting = []) {i : Nat}
    (hi : s.workers[i]? = some .ready) (hfree : ∀ p ∈ s.workers, ¬ p.isListening) :
    Leads x w s { s with workers := s.workers.set i .gone } := by
  have hlisten : Leads x w s { s with workers := s.workers.set i .listening } :=
    .step (.listened hi hfree)
  have hturn : (s.workers.set i .listening)[i]? = some (Phase.listening : Phase I T R) :=
    List.getElem?_set_self (List.getElem?_eq_some_iff.mp hi).1
  have hend : Leads x w { s with workers := s.workers.set i .listening }
      { s with workers := (s.workers.set i .listening).set i .gone } := by
    rcases hover with hover | ⟨hp, hq⟩
    · exact .step (.left hturn hover)
    · exact .step (.closed hturn hq hp)
  rw [List.set_set] at hend
  exact hlisten.trans hend

/-- Workers at rest end one after another. -/
theorem leads_gone {w : World I} (s : State I T R w.State)
    (hover : s.winner.isSome ∨ s.producer = none ∧ s.waiting = []) :
    ∀ (todo done : List (Phase I T R)), s.workers = done ++ todo →
      (∀ p ∈ done, p = .gone) → (∀ p ∈ todo, p.IsResting) →
      ∃ ps, (∀ p ∈ ps, p.isGone) ∧ Leads x w s { s with workers := ps } := by
  intro todo
  -- The workers before have ended already.
  induction todo generalizing s with
  | nil =>
    intro done hs hdone _
    rw [List.append_nil] at hs
    refine ⟨s.workers, fun p hp => ?_, .refl s⟩
    rw [hdone p (hs ▸ hp)]
    trivial
  | cons p todo ih =>
    intro done hs hdone htodo
    have hrest : ∀ q ∈ todo, q.IsResting := fun q hq => htodo q (List.mem_cons_of_mem _ hq)
    have hdone' : ∀ q ∈ done ++ [.gone], q = .gone := by
      intro q hq
      rcases List.mem_append.mp hq with hq | hq
      · exact hdone q hq
      · exact List.mem_singleton.mp hq
    rcases htodo p List.mem_cons_self with rfl | rfl
    · have hfree : ∀ q ∈ s.workers, ¬ q.isListening := by
        intro q hq hl
        have hcase : q = .gone ∨ q = .ready := by
          rw [hs] at hq
          rcases List.mem_append.mp hq with hq | hq
          · exact .inl (hdone q hq)
          · exact (htodo q hq).symm
        rcases hcase with rfl | rfl <;> exact hl
      have hend := leads_end (x := x) s hover (i := done.length) (by simp [hs]) hfree
      have hset : s.workers.set done.length .gone = done ++ .gone :: todo := by simp [hs]
      rw [hset] at hend
      obtain ⟨ps, hps, hlead⟩ := ih { s with workers := done ++ .gone :: todo } hover
        (done ++ [.gone]) (by simp) hdone' hrest
      exact ⟨ps, hps, hend.trans hlead⟩
    · exact ih s hover (done ++ [.gone]) (by simp [hs]) hdone' hrest

theorem leads_final {w : World I} (s : State I T R w.State)
    (hover : s.winner.isSome ∨ s.producer = none ∧ s.waiting = [])
    (hrest : ∀ p ∈ s.workers, p.IsResting) (hj : s.joined = false) :
    ∃ s', Leads x w s s' ∧ s'.Final ∧ s'.outcome = s.outcome ∧ s'.world = s.world := by
  obtain ⟨ps, hps, hgone⟩ := leads_gone (x := x) s hover s.workers [] rfl (by simp) hrest
  have hjoin : Leads x w { s with workers := ps } { s with workers := ps, joined := true } :=
    .step (.joined hps hj)
  have hstart := hgone.trans hjoin
  cases hp : s.producer with
  | none => exact ⟨_, hstart, ⟨rfl, hp⟩, rfl, rfl⟩
  | some p =>
    have hwin : s.winner.isSome := hover.resolve_right fun hc => by simp [hp] at hc
    have hdrop : Leads x w { s with workers := ps, joined := true }
        { s with workers := ps, joined := true, producer := none } :=
      .step (.dropped hp hwin)
    exact ⟨_, hstart.trans hdrop, ⟨rfl, rfl⟩, rfl, rfl⟩

/-! ## The tasks -/

variable {h : I.Handler σ}

/-- A worker can do all of the work on its task while nobody else moves. -/
theorem leads_work (s : State I T R (World.ofHandler h).State) {i : Nat} {t : T} {p : Work I R}
    (hi : s.workers[i]? = some (.busy t p)) :
    Leads x (.ofHandler h) s { s with
      world := (p.run h s.world).2
      workers := s.workers.set i (.busy t (.ret (p.run h s.world).1)) } := by
  induction p generalizing s with
  | ret res =>
    obtain ⟨hlt, heq⟩ := List.getElem?_eq_some_iff.mp hi
    have hset : s.workers.set i (.busy t (.ret res)) = s.workers := by
      rw [← heq, List.set_getElem_self]
    simp only [Protocol.run, hset]
    exact .refl s
  | call c next ih =>
    have hlt := (List.getElem?_eq_some_iff.mp hi).1
    have hstep : Leads x (.ofHandler h) s { s with
        world := (h c s.world).2, workers := s.workers.set i (.busy t (next (h c s.world).1)) } :=
      .step (.worked hi rfl)
    have hrest := ih (h c s.world).1 { s with
      world := (h c s.world).2, workers := s.workers.set i (.busy t (next (h c s.world).1)) }
      (List.getElem?_set_self hlt)
    simp only [List.set_set] at hrest
    exact hstep.trans hrest

/-- The state that a board shows while all workers are ready. -/
def Board.state {W : Type} (b : Board T R) (x : Search I T R) (producer : Option (Producer I T))
    (world : W) : State I T R W :=
  ⟨world, producer, b.waiting, List.replicate x.workers .ready, b.winner, b.failure, false⟩

theorem isResting_of_mem_set {n : Nat} {q p : Phase I T R} (hq : q.IsResting)
    (hp : p ∈ (List.replicate n Phase.ready).set 0 q) : p.IsResting := by
  rcases List.mem_or_eq_of_mem_set hp with hp | rfl
  · exact .inl (List.eq_of_mem_replicate hp)
  · exact hq

/-- The first worker can take the first task and do all of the work on it. -/
theorem leads_task (hx : 0 < x.workers) (b : Board T R) (producer : Option (Producer I T))
    (t : T) (ts : List T) (world : σ) :
    Leads x (.ofHandler h) (({ b with waiting := t :: ts } : Board T R).state x producer world)
      ⟨((x.work t).run h world).2, producer, ts, (List.replicate x.workers Phase.ready).set 0
        (.busy t (.ret ((x.work t).run h world).1)), b.winner, b.failure, false⟩ := by
  have hlisten : Leads x (.ofHandler h)
      (({ b with waiting := t :: ts } : Board T R).state x producer world)
      ⟨world, producer, t :: ts, (List.replicate x.workers Phase.ready).set 0 .listening, b.winner,
        b.failure, false⟩ := by
    refine .step (.listened ?_ fun q hq hl => ?_)
    · simp [Board.state, hx]
    · rw [List.eq_of_mem_replicate hq] at hl
      exact hl
  have htake : Leads x (.ofHandler h)
      ⟨world, producer, t :: ts, (List.replicate x.workers Phase.ready).set 0 .listening, b.winner,
        b.failure, false⟩
      ⟨world, producer, ts, (List.replicate x.workers Phase.ready).set 0 (.busy t (x.work t)),
        b.winner, b.failure, false⟩ := by
    have hstep := Leads.step (Step.taken (x := x) (w := .ofHandler h) (s := ⟨world, producer,
      t :: ts, (List.replicate x.workers Phase.ready).set 0 .listening, b.winner, b.failure, false⟩)
      (List.getElem?_set_self (by simpa using hx)) rfl)
    simpa only [List.set_set] using hstep
  have hwork := leads_work (x := x) (h := h) ⟨world, producer, ts,
    (List.replicate x.workers Phase.ready).set 0 (.busy t (x.work t)), b.winner, b.failure, false⟩
    (List.getElem?_set_self (by simpa using hx))
  simp only [List.set_set] at hwork
  exact hlisten.trans (htake.trans hwork)

/-- A state from which the search goes on as the schedule does, unless there is a match. -/
structure Shows (x : Search I T R) (producer : Option (Producer I T)) (r : Board T R × σ)
    (s : State I T R (World.ofHandler h).State) : Prop where
  /-- The same outcome. -/
  outcome : s.outcome = r.1.outcome
  /-- The same world. -/
  world : s.world = r.2
  /-- The same winner. -/
  winner : s.winner = r.1.winner
  /-- Nobody is at work. -/
  resting : ∀ p ∈ s.workers, p.IsResting
  /-- The caller still waits. -/
  waits : s.joined = false
  /-- Without a match the search goes on from here. -/
  goesOn : r.1.winner = none → s = r.1.state x producer r.2

theorem shows_state (b : Board T R) (producer : Option (Producer I T)) (world : σ) :
    Shows (h := h) x producer (b, world) (b.state x producer world) :=
  ⟨rfl, rfl, rfl, fun _ hp => .inl (List.eq_of_mem_replicate hp), rfl, fun _ => rfl⟩

theorem waiting_workOff (work : T → Work I R) (ts : List T) (b : Board T R) (world : σ)
    (hw : (workOff work h ts b world).1.winner = none) :
    (workOff work h ts b world).1.waiting = [] := by
  induction ts generalizing b world with
  | nil => rfl
  | cons t ts ih =>
    rw [workOff] at hw ⊢
    rcases hrun : (work t).run h world with ⟨res, world'⟩
    rw [hrun] at hw
    match res with
    | .ok (some r) => cases hw
    | .ok none => exact ih b world' hw
    | .error e => exact ih { b with failure := some e } world' hw

theorem leads_workOff (hx : 0 < x.workers) (producer : Option (Producer I T)) (ts : List T)
    (b : Board T R) (world : σ) (hb : b.winner = none) :
    ∃ s, Leads x (.ofHandler h) (({ b with waiting := ts } : Board T R).state x producer world) s ∧
      Shows x producer (workOff x.work h ts b world) s := by
  induction ts generalizing b world with
  | nil => exact ⟨_, .refl _, shows_state { b with waiting := [] } producer world⟩
  | cons t ts ih =>
    have htask := leads_task (h := h) hx b producer t ts world
    rw [workOff]
    rcases hrun : (x.work t).run h world with ⟨res, world'⟩
    rw [hrun] at htask
    have hi : ((List.replicate x.workers Phase.ready).set 0 (.busy t (.ret res)))[0]? =
        some (.busy t (.ret res) : Phase I T R) := List.getElem?_set_self (by simpa using hx)
    have hback : ((List.replicate x.workers Phase.ready).set 0 (.busy t (.ret res))).set 0 .ready =
        (List.replicate x.workers .ready : List (Phase I T R)) := by
      rw [List.set_set, List.set_replicate_self]
    match res with
    | .ok (some r) =>
      refine ⟨_, htask.trans (.step (.matched hi)), ⟨?_, rfl, ?_, fun p hp => ?_, rfl, ?_⟩⟩
      · simp [State.outcome, Board.outcome, hb]
      · simp [hb]
      · simp only [List.set_set] at hp
        exact isResting_of_mem_set (.inr rfl) hp
      · simp
    | .ok none =>
      obtain ⟨s, hs, hshow⟩ := ih b world' hb
      have hstep := htask.trans (.step (.missed hi))
      simp only [hback] at hstep
      exact ⟨s, hstep.trans hs, hshow⟩
    | .error e =>
      obtain ⟨s, hs, hshow⟩ := ih { b with failure := some e } world' hb
      have hstep := htask.trans (.step (.failed hi))
      simp only [hback] at hstep
      exact ⟨s, hstep.trans hs, hshow⟩

/-! ## The producer -/

/-- The search is decided: only the end of its parts is left. -/
structure Decided (r : Board T R × σ) (s : State I T R (World.ofHandler h).State) : Prop where
  /-- The same outcome. -/
  outcome : s.outcome = r.1.outcome
  /-- The same world. -/
  world : s.world = r.2
  /-- There is a match, or nothing is left to do. -/
  decided : s.winner.isSome ∨ s.producer = none ∧ s.waiting = []
  /-- Nobody is at work. -/
  resting : ∀ p ∈ s.workers, p.IsResting
  /-- The caller still waits. -/
  waits : s.joined = false

theorem Shows.decided {producer : Option (Producer I T)} {r : Board T R × σ}
    {s : State I T R (World.ofHandler h).State} (hs : Shows x producer r s)
    (hover : r.1.winner = none → producer = none ∧ r.1.waiting = []) : Decided r s := by
  refine ⟨hs.outcome, hs.world, ?_, hs.resting, hs.waits⟩
  cases hw : r.1.winner with
  | some m => exact .inl (by rw [hs.winner, hw]; rfl)
  | none =>
    rw [hs.goesOn hw]
    exact .inr (hover hw)

theorem leads_wait (hx : 0 < x.workers) (producer : Option (Producer I T)) (c : Prop) [Decidable c]
    (b : Board T R) (world : σ) (hb : b.winner = none) :
    ∃ s, Leads x (.ofHandler h) (b.state x producer world) s ∧
      Shows x producer (if c then (b, world) else workOff x.work h b.waiting b world) s := by
  by_cases hcase : c
  · rw [if_pos hcase]
    exact ⟨_, .refl _, shows_state b producer world⟩
  · rw [if_neg hcase]
    exact leads_workOff hx producer b.waiting b world hb

/-- After that there is room for a task, unless there is a match. -/
theorem room_wait {capacity : Nat} (hc : 0 < capacity) (work : T → Work I R) (b : Board T R)
    (world : σ) {r : Board T R × σ}
    (hr : (if b.waiting.length < capacity then (b, world)
      else workOff work h b.waiting b world) = r) (hw : r.1.winner = none) :
    r.1.waiting.length < capacity := by
  subst hr
  by_cases hlt : b.waiting.length < capacity
  · rwa [if_pos hlt]
  · rw [if_neg hlt] at hw ⊢
    rw [waiting_workOff work b.waiting b world hw]
    exact hc

/-- A match on the way decides the search; without one it goes on. -/
theorem leads_decided {producer : Option (Producer I T)} {r k : Board T R × σ}
    {s₁ s₂ : State I T R (World.ofHandler h).State} (hs : Leads x (.ofHandler h) s₁ s₂)
    (hshow : Shows x producer r s₂)
    (hnext : r.1.winner = none →
      ∃ s, Leads x (.ofHandler h) (r.1.state x producer r.2) s ∧ Decided k s) :
    ∃ s, Leads x (.ofHandler h) s₁ s ∧ Decided (if r.1.winner.isSome then r else k) s := by
  cases hw : r.1.winner with
  | some m => exact ⟨s₂, hs, hshow.decided fun hc => by simp [hw] at hc⟩
  | none =>
    rw [hshow.goesOn hw] at hs
    obtain ⟨s, hs', hdec⟩ := hnext hw
    exact ⟨s, hs.trans hs', hdec⟩

/-- The schedule of a producer is one of the ways in which the search can go. -/
theorem leads_runProducer (hc : 0 < x.capacity) (hx : 0 < x.workers) (pauses : I.Call → Bool)
    (p : Producer I T) (b : Board T R) (world : σ) (hb : b.winner = none) :
    ∃ s, Leads x (.ofHandler h) (b.state x (some p) world) s ∧
      Decided (x.runProducer pauses h p b world) s := by
  -- Between two calls of the producer all workers are ready and there is no match.
  induction p generalizing b world with
  | ret u =>
    have hend : Leads x (.ofHandler h) (b.state x (some (.ret u)) world) (b.state x none world) :=
      .step (.produced rfl)
    obtain ⟨s, hs, hshow⟩ := leads_workOff (h := h) hx none b.waiting b world hb
    rw [runProducer]
    exact ⟨s, hend.trans hs, hshow.decided fun hw => ⟨rfl, waiting_workOff _ _ _ _ hw⟩⟩
  | call c next ih =>
    cases c with
    | outer c =>
      obtain ⟨s, hs, hshow⟩ := leads_wait hx (some (.call (.outer c) next)) (¬ pauses c) b world hb
      rw [runProducer]
      simp only [ite_not] at hshow
      refine leads_decided hs hshow fun hw => ?_
      obtain ⟨s', hs', hdec⟩ := ih _ _ _ hw
      exact ⟨s', .trans (.step (.answered rfl rfl)) hs', hdec⟩
    | push t =>
      obtain ⟨s, hs, hshow⟩ := leads_wait hx (some (.call (.push t) next))
        (b.waiting.length < x.capacity) b world hb
      rw [runProducer]
      refine leads_decided hs hshow fun hw => ?_
      have hroom := room_wait hc x.work b world rfl hw
      generalize (if b.waiting.length < x.capacity then (b, world)
        else workOff x.work h b.waiting b world) = r at hw hroom ⊢
      obtain ⟨s', hs', hdec⟩ := ih true { r.1 with waiting := r.1.waiting ++ [t] } r.2 hw
      exact ⟨s', .trans (.step (.pushed rfl hroom rfl)) hs', hdec⟩
    | record e =>
      have hstep : Leads x (.ofHandler h) (b.state x (some (.call (.record e) next)) world)
          (({ b with failure := some e } : Board T R).state x (some (next ())) world) :=
        .step (.recorded rfl)
      obtain ⟨s', hs', hdec⟩ := ih () { b with failure := some e } world hb
      exact ⟨s', hstep.trans hs', hdec⟩
    | isOver =>
      have hstep : Leads x (.ofHandler h) (b.state x (some (.call .isOver next)) world)
          (b.state x (some (next (b.winner.isSome || false))) world) :=
        .step (.polled rfl)
      rw [Bool.or_false] at hstep
      obtain ⟨s', hs', hdec⟩ := ih b.winner.isSome b world hb
      exact ⟨s', hstep.trans hs', hdec⟩

/-- A search that is run ends as some run of its parts does. -/
theorem ends_run (hc : 0 < x.capacity) (hx : 0 < x.workers) (pauses : I.Call → Bool) (world : σ) :
    ∃ es, Ends x (.ofHandler h) world es (x.run pauses h world).1 (x.run pauses h world).2 := by
  obtain ⟨s, ⟨es, hs⟩, hdec⟩ := leads_runProducer (h := h) hc hx pauses x.produce {} world rfl
  obtain ⟨s', ⟨fs, hs'⟩, hfinal, hout, hworld⟩ :=
    leads_final (x := x) s hdec.decided hdec.resting hdec.waits
  exact ⟨es ++ fs, s', hs.trans hs', hfinal, hout.trans hdec.outcome, hworld.trans hdec.world⟩

/-! ## A search among numbers -/

/-- Numbers as calls. The work on zero fails, that on an even number finds its half, and that on an
odd number finds nothing. -/
def halves : Interface.Handler ⟨Nat, fun _ => Result (Option Nat)⟩ Unit := fun n _ =>
  (if n = 0 then .error (.connection "zero") else .ok (if n % 2 = 0 then some (n / 2) else none), ())

/-- Puts numbers on the queue as long as they are wanted. -/
def produceNumbers {I : Interface} : List Nat → Protocol (interface I Nat) Unit
  | [] => return
  | n :: ns => do
    if ← ask (.push n) then produceNumbers ns

example : ((Search.within {} (produceNumbers [0, 3, 4, 6]) fun n => .call n .ret).run
    (fun _ => false) halves ()).1 = .found 2 := rfl

end NodeAtlas.Search
