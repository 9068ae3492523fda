import Mathlib.Tactic.SplitIfs
import NodeAtlas.Proofs.Pool.Manners

/-!
# Strands in a crowd

What a step of a crowd does to its strands: one of them goes on, or a new one begins, and the others
stay as they are or are dropped. The tasks on the queues of all searches are at endpoints of the pool.
-/

namespace NodeAtlas.Pool

open Search

/-! ## Changes -/

/-- The exchange with the world in an exchange of a strand. -/
def seen? : Strand.interface.Exchange → Option interface.Exchange
  | ⟨.pool c, r⟩ => some ⟨c, r⟩
  | _ => none

/-- The exchange with the world in an exchange of a producer. -/
def outer? {T : Type} : (Search.interface interface T).Exchange → Option interface.Exchange
  | ⟨.outer c, r⟩ => some ⟨c, r⟩
  | _ => none

/-- Apart from one of them, all strands stay as they are or are dropped. -/
def Others {ι : Type} (x : ι) (F F' : ι → Option Strand) : Prop :=
  ∀ y, y ≠ x → F' y = F y ∨ F' y = none

/-- What a step does to strands, given the calls that can be answered in it. -/
inductive Change (p : Pool) (allows : Call → Prop) {ι : Type} (F F' : ι → Option Strand) :
    Option interface.Exchange → Prop where
  /-- A strand goes on. -/
  | called {x : ι} {c : Strand.Call} {next : Strand.Reply c → Strand}
      (hx : F x = some (.call c next)) (hc : ∀ d, c = .pool d → allows d) (r : Strand.Reply c)
      (hx' : F' x = some (next r)) (h : Others x F F') : Change p allows F F' (seen? ⟨c, r⟩)
  /-- A strand begins. -/
  | born {x : ι} {q : Strand} (hx : F x = none) (hq : Tidy p q) (hx' : F' x = some q)
      (h : Others x F F') : Change p allows F F' none
  /-- Strands are dropped. -/
  | left (h : ∀ y, F' y = F y ∨ F' y = none) : Change p allows F F' none

section

variable {p : Pool} {P : Call → Prop} {ι : Type} {F F' : ι → Option Strand} {x : ι}

/-- If the one strand is dropped, strands are only dropped. -/
theorem Others.change (h : Others x F F') (hx : F' x = none) : Change p P F F' none := by
  refine .left fun y => ?_
  by_cases hy : y = x
  · subst hy
    exact .inr hx
  · exact h y hy

theorem allows_pool {c : Call} (hc : P c) : ∀ d, Strand.Call.pool c = .pool d → P d := by
  rintro d hd
  cases hd
  exact hc

end

/-! ## Searches -/

section Searches

variable {p : Pool} {w : World interface} {P : Call → Prop} {own : Option Strand} {k : Quest}
  {t t' : Search.State interface k.Task k.Match w.State} {i : Nat}
  {a b : Phase interface k.Task k.Match}

/-- The strands of an operation and of its search. -/
def strandsOf (own : Option Strand) (t : Search.State interface k.Task k.Match w.State) :
    Seat → Option Strand :=
  Activity.strand ⟨own, some ⟨k, t⟩⟩

/-- The strand that a worker in some phase is. -/
def worker? (b : Phase interface k.Task k.Match) : Option Strand :=
  b.rest?.map fun rest => (Strand.ofPool rest).discard

theorem strandsOf_producer :
    strandsOf own t .producer = t.producer.map (Strand.ofProducer k.endpoint) := rfl

theorem strandsOf_worker (hi : t.workers[i]? = some b) :
    strandsOf own t (.worker i) = worker? b := by
  simp only [strandsOf, Activity.strand, Option.bind_some, hi, worker?]

theorem strandsOf_worker_set (hi : t.workers[i]? = some a)
    (hworkers : t'.workers = t.workers.set i b) : strandsOf own t' (.worker i) = worker? b := by
  refine strandsOf_worker ?_
  rw [hworkers, List.getElem?_set_self (List.getElem?_eq_some_iff.mp hi).1]

theorem others_producer (hworkers : t'.workers = t.workers) :
    Others .producer (strandsOf own t) (strandsOf own t') := by
  intro y hy
  cases y with
  | own => exact .inl rfl
  | producer => exact absurd rfl hy
  | worker j => exact .inl (by simp only [strandsOf, Activity.strand, Option.bind_some, hworkers])

theorem others_worker (hproducer : t'.producer = t.producer)
    (hworkers : t'.workers = t.workers.set i b) :
    Others (.worker i) (strandsOf own t) (strandsOf own t') := by
  intro y hy
  cases y with
  | own => exact .inl rfl
  | producer => exact .inl (by simp only [strandsOf_producer, hproducer])
  | worker j =>
    have hj : i ≠ j := fun h => hy (h ▸ rfl)
    refine .inl ?_
    simp only [strandsOf, Activity.strand, Option.bind_some, hworkers, List.getElem?_set_ne hj]

/-- A producer goes on. -/
theorem change_of_producer {c : Search.Call interface k.Task}
    {next : Search.Reply interface k.Task c → Search.Producer interface k.Task}
    (hproducer : t.producer = some (.call c next)) (r : Search.Reply interface k.Task c)
    (hproducer' : t'.producer = some (next r)) (hworkers : t'.workers = t.workers)
    (hc : ∀ d, c = .outer d → P d) :
    Change p P (strandsOf own t) (strandsOf own t') (outer? ⟨c, r⟩) := by
  have hother : Others .producer (strandsOf own t) (strandsOf own t') := others_producer hworkers
  have hbefore : strandsOf own t .producer =
      some (Strand.ofProducer k.endpoint (.call c next)) := by
    rw [strandsOf_producer, hproducer, Option.map_some]
  have hafter : strandsOf own t' .producer = some (Strand.ofProducer k.endpoint (next r)) := by
    rw [strandsOf_producer, hproducer', Option.map_some]
  cases c with
  | outer d => exact .called (c := .pool d) hbefore (allows_pool (hc d rfl)) r hafter hother
  | push task => exact .called (c := .push (k.endpoint task)) hbefore nofun r hafter hother
  | record err => exact .called (c := .record err) hbefore nofun r hafter hother
  | isOver => exact .called (c := .isOver) hbefore nofun r hafter hother

/-- A producer is no longer there. -/
theorem change_of_producer_none (hproducer : t'.producer = none)
    (hworkers : t'.workers = t.workers) :
    Change p P (strandsOf own t) (strandsOf own t') none := by
  refine (others_producer hworkers).change ?_
  rw [strandsOf_producer, hproducer, Option.map_none]

/-- A worker does something else than to call. -/
theorem change_of_worker_none (hproducer : t'.producer = t.producer) (hi : t.workers[i]? = some a)
    (hworkers : t'.workers = t.workers.set i b) (hb : b.rest? = none) :
    Change p P (strandsOf own t) (strandsOf own t') none := by
  refine (others_worker hproducer hworkers).change ?_
  rw [strandsOf_worker_set hi hworkers, worker?, hb, Option.map_none]

theorem change_of_search (own : Option Strand) (hkeyed : Keyed p.endpoints)
    (howns : Owns p (t.waiting.map k.endpoint)) (hP : ∀ s c r s', w.answers s c r s' → P c)
    {y : Search.Event interface k.Task k.Match} (h : Search.Step (k.search p) w t y t') :
    Change p P (strandsOf own t) (strandsOf own t') (answered? y) := by
  cases h with
  | answered hp hw =>
    refine change_of_producer hp _ rfl rfl fun d hd => ?_
    cases hd
    exact hP _ _ _ _ hw
  | pushed hp => exact change_of_producer hp true rfl rfl nofun
  | refused hp => exact change_of_producer hp false rfl rfl nofun
  | recorded hp => exact change_of_producer hp () rfl rfl nofun
  | polled hp => exact change_of_producer hp _ rfl rfl nofun
  | produced => exact change_of_producer_none rfl rfl
  | dropped => exact change_of_producer_none rfl rfl
  | taken hi hq =>
    rename_i i task ts
    have htask : p.endpoint (k.endpoint task).tenant = .ok (k.endpoint task) :=
      howns _ (by simp [hq])
    refine .born (strandsOf_worker hi) (k.tidy_work hkeyed htask) ?_ (others_worker rfl rfl)
    exact strandsOf_worker_set (b := .busy task ((k.search p).work task)) hi rfl
  | worked hi hw =>
    rename_i i task c next r world
    have hc := allows_pool (hP _ _ _ _ hw)
    refine .called (c := .pool c) (strandsOf_worker hi) hc r ?_ (others_worker rfl rfl)
    exact strandsOf_worker_set (b := .busy task (next r)) hi rfl
  | joined => exact .left fun y => .inl rfl
  | listened hi | left hi | closed hi | matched hi | missed hi | failed hi =>
    exact change_of_worker_none rfl hi rfl rfl

/-- The tasks on the queue were there before, or the producer puts one of them there. -/
theorem owns_of_search (own : Option Strand) (howns : Owns p (t.waiting.map k.endpoint))
    (hpush : ∀ e next, strandsOf own t .producer = some (.call (.push e) next) →
      p.endpoint e.tenant = .ok e)
    {y : Search.Event interface k.Task k.Match} (h : Search.Step (k.search p) w t y t') :
    Owns p (t'.waiting.map k.endpoint) := by
  cases h with
  | pushed hp =>
    rename_i task next _ _
    intro e he
    rw [List.map_append, List.mem_append] at he
    rcases he with he | he
    · exact howns e he
    · obtain rfl : e = k.endpoint task := by simpa using he
      refine hpush _ (fun r => Strand.ofProducer k.endpoint (next r)) ?_
      rw [strandsOf_producer, hp]
      rfl
  | taken hi hq =>
    intro e he
    exact howns e (by rw [hq]; exact List.mem_cons_of_mem _ he)
  | _ => exact howns

end Searches

/-! ## Crowds -/

section Crowds

variable {p : Pool} {W : Type} {s : Crowd W}

/-- The endpoints of the tasks on the queue of an activity. -/
def Activity.queued (a : Activity W) : List Endpoint :=
  match a.search with
  | some s => s.2.waiting.map s.1.endpoint
  | none => []

/-- All tasks on queues are at endpoints of the pool. -/
def Crowd.OwnsQueued (p : Pool) (s : Crowd W) : Prop := ∀ a ∈ s.activities, Owns p a.queued

theorem strand_set {i : Nat} {b : Activity W} (hi : s.activities[i]? = some b) (world : W)
    (a : Activity W) (x : Nat × Seat) :
    (({ s with world := world } : Crowd W).set i a).strand x =
      if x.1 = i then a.strand x.2 else s.strand x := by
  unfold Crowd.strand Crowd.set
  split_ifs with hx
  · rw [hx, List.getElem?_set_self (List.getElem?_eq_some_iff.mp hi).1]
    rfl
  · rw [List.getElem?_set_ne (Ne.symm hx)]

theorem strand_of_getElem? {i : Nat} {a : Activity W} (hi : s.activities[i]? = some a) (y : Seat) :
    s.strand (i, y) = a.strand y := by
  simp only [Crowd.strand, hi, Option.bind_some]

/-- A change in an activity is one in the crowd. -/
theorem Change.lift {P : Call → Prop} {a b : Activity W} {y : Option interface.Exchange}
    (h : Change p P a.strand b.strand y) {i : Nat} (hi : s.activities[i]? = some a) (world : W) :
    Change p P s.strand (({ s with world := world } : Crowd W).set i b).strand y := by
  have hat (z : Seat) : (({ s with world := world } : Crowd W).set i b).strand (i, z) = b.strand z := by
    rw [strand_set hi, if_pos rfl]
  have hkept (x : Nat × Seat) (hx : b.strand x.2 = a.strand x.2 ∨ b.strand x.2 = none ∨ x.1 ≠ i) :
      (({ s with world := world } : Crowd W).set i b).strand x = s.strand x ∨
        (({ s with world := world } : Crowd W).set i b).strand x = none := by
    obtain ⟨j, z⟩ := x
    by_cases hj : j = i
    · subst hj
      rw [hat, strand_of_getElem? hi]
      rcases hx with hx | hx | hx
      · exact .inl hx
      · exact .inr hx
      · exact absurd rfl hx
    · rw [strand_set hi, if_neg hj]
      exact .inl rfl
  have hothers {z : Seat} (hz : Others z a.strand b.strand) :
      Others (i, z) s.strand (({ s with world := world } : Crowd W).set i b).strand := by
    intro x hx
    by_cases hi : x.1 = i
    · exact hkept x ((hz x.2 fun h => hx (Prod.ext hi h)).imp_right .inl)
    · exact hkept x (.inr (.inr hi))
  cases h with
  | called hx hc r hx' h =>
    exact .called ((strand_of_getElem? hi _).trans hx) hc r ((hat _).trans hx') (hothers h)
  | born hx hq hx' h =>
    exact .born ((strand_of_getElem? hi _).trans hx) hq ((hat _).trans hx') (hothers h)
  | left h => exact .left fun x => hkept x ((h x.2).imp_right .inl)

theorem Crowd.OwnsQueued.set (h : s.OwnsQueued p) {a : Activity W} (ha : Owns p a.queued)
    (world : W) (i : Nat) : (({ s with world := world } : Crowd W).set i a).OwnsQueued p := by
  intro b hb
  rcases List.mem_or_eq_of_mem_set hb with hb | rfl
  · exact h b hb
  · exact ha

end Crowds

section Steps

variable {p : Pool} {w : World interface} {s s' : Crowd w.State} {y : Option interface.Exchange}

theorem owns_queued_search (h : s.OwnsQueued p) {i : Nat} {a : Activity w.State} {k : Quest}
    {t : Search.State interface k.Task k.Match w.State} (hi : s.activities[i]? = some a)
    (hsearch : a.search = some ⟨k, t⟩) : Owns p (t.waiting.map k.endpoint) := by
  have ha := h a (List.mem_of_getElem? hi)
  rwa [Activity.queued, hsearch] at ha

theorem change_of_step (hkeyed : Keyed p.endpoints) (howns : s.OwnsQueued p)
    (h : Crowd.Step p w s y s') : Change p s.Allows s.strand s'.strand y := by
  cases h with
  | started o =>
    refine .born (x := (s.activities.length, .own)) ?_ (o.tidy hkeyed) ?_ ?_
    · simp [Crowd.strand]
    · simp [Crowd.strand, Activity.strand]
    · rintro ⟨j, z⟩ hz
      rcases Nat.lt_trichotomy j s.activities.length with hj | rfl | hj
      · exact .inl (by simp only [Crowd.strand, List.getElem?_append_left hj])
      · cases z with
        | own => exact absurd rfl hz
        | producer => exact .inr (by simp [Crowd.strand, Activity.strand])
        | worker j => exact .inr (by simp [Crowd.strand, Activity.strand])
      · refine .inr ?_
        simp [Crowd.strand, List.getElem?_eq_none (l := s.activities ++ [_]) (i := j) (by simp; omega)]
  | called hi hown hw =>
    rename_i i a c next r world
    refine Change.lift (.called (x := .own) (c := .pool c) hown (allows_pool hw.1) r rfl ?_) hi _
    intro z hz
    cases z with
    | own => exact absurd rfl hz
    | _ => exact .inl rfl
  | begun hi hown hsearch =>
    rename_i i a k next
    refine Change.lift (.born (x := .producer) ?_ (k.tidy_produce hkeyed) rfl ?_) hi _
    · simp only [Activity.strand, hsearch, Option.bind_none]
    · intro z hz
      cases z with
      | own => exact .inl rfl
      | producer => exact absurd rfl hz
      | worker j =>
        refine .inr ?_
        simp only [Activity.strand, State.start, Option.bind_some, List.getElem?_replicate]
        split_ifs <;> rfl
  | searched hi hsearch hstep =>
    rename_i i a k t t' y
    have hqueued := owns_queued_search howns hi hsearch
    obtain ⟨own, search⟩ := a
    obtain rfl : search = _ := hsearch
    have hchange := change_of_search (w := w.only s.Allows) (t := { t with world := s.world })
      (P := s.Allows) own hkeyed hqueued (fun _ _ _ _ hw => hw.1) hstep
    refine Change.lift ?_ hi _
    exact hchange
  | concluded hi hown hsearch hfinal =>
    rename_i i a k next t
    refine Change.lift (.called (x := .own) (c := .quest k) hown (fun d hd => ?_) t.outcome rfl ?_) hi _
    · cases hd
    · intro z hz
      cases z with
      | own => exact absurd rfl hz
      | _ => exact .inr rfl
  | abandoned hi =>
    refine Change.lift (.left fun z => ?_) hi _
    cases z with
    | own => exact .inr rfl
    | _ => exact .inl rfl
  | producerDropped hi hsearch =>
    rename_i i a k t
    obtain ⟨own, search⟩ := a
    obtain rfl : search = _ := hsearch
    refine Change.lift ?_ hi _
    exact change_of_producer_none rfl rfl
  | workerDropped hi hsearch =>
    rename_i i j a k t
    obtain ⟨own, search⟩ := a
    obtain rfl : search = _ := hsearch
    refine Change.lift ?_ hi _
    have hothers : Others (.worker j) (strandsOf own t)
        (strandsOf own { t with workers := t.workers.set j .gone }) := others_worker rfl rfl
    refine hothers.change ?_
    simp only [strandsOf, Activity.strand, Option.bind_some, List.getElem?_set_self']
    cases t.workers[j]? <;> rfl

/-- Tasks stay at endpoints of the pool if they are put there. -/
theorem owns_of_step (howns : s.OwnsQueued p)
    (hpush : ∀ x e next, s.strand x = some (.call (.push e) next) → p.endpoint e.tenant = .ok e)
    (h : Crowd.Step p w s y s') : s'.OwnsQueued p := by
  cases h with
  | started o =>
    intro b hb
    rcases List.mem_append.mp hb with hb | hb
    · exact howns b hb
    · obtain rfl := List.mem_singleton.mp hb
      intro e he
      cases he
  | called hi | abandoned hi =>
    have hqueued := howns _ (List.mem_of_getElem? hi)
    refine howns.set ?_ _ _
    exact hqueued
  | begun =>
    refine howns.set ?_ _ _
    intro e he
    cases he
  | searched hi hsearch hstep =>
    rename_i i a k t t' y
    have hqueued := owns_queued_search howns hi hsearch
    obtain ⟨own, search⟩ := a
    obtain rfl : search = _ := hsearch
    refine howns.set ?_ _ _
    refine owns_of_search (w := w.only s.Allows) (t := { t with world := s.world }) own hqueued ?_
      hstep
    intro e next hproducer
    exact hpush (i, .producer) e next ((strand_of_getElem? hi _).trans hproducer)
  | concluded =>
    refine howns.set ?_ _ _
    intro e he
    cases he
  | producerDropped hi hsearch | workerDropped hi hsearch =>
    have hqueued := owns_queued_search howns hi hsearch
    refine howns.set ?_ _ _
    exact hqueued

end Steps

end NodeAtlas.Pool
