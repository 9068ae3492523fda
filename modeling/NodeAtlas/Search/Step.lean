import NodeAtlas.Protocol.World
import NodeAtlas.Search.Basic

/-!
# Steps of a search

All the ways in which a search can go. The producer, the workers and the caller that waits for them
move in any order, one step at a time; `Step` says which steps a state allows and `Steps` strings
them together.
-/

namespace NodeAtlas.Search

/-- Where a worker is. -/
inductive Phase (I : Interface) (T R : Type) where
  /-- It waits for its turn to take a task. -/
  | ready
  /-- It is its turn to take a task. -/
  | listening
  /-- It works on a task; the rest of the work is left. -/
  | busy (task : T) (rest : Work I R)
  /-- It has ended. -/
  | gone

/-- The worker has ended. -/
def Phase.isGone {I : Interface} {T R : Type} : Phase I T R → Prop
  | .gone => True
  | _ => False

/-- It is the turn of the worker to take a task. -/
def Phase.isListening {I : Interface} {T R : Type} : Phase I T R → Prop
  | .listening => True
  | _ => False

structure State (I : Interface) (T R W : Type) where
  world : W
  /-- What is left of the producer, unless it has ended or was dropped. -/
  producer : Option (Producer I T)
  /-- The tasks on the queue. -/
  waiting : List T
  workers : List (Phase I T R)
  /-- The first match. -/
  winner : Option R
  /-- The last failure. -/
  failure : Option Error
  /-- The caller has seen all workers end and has given up the queue. -/
  joined : Bool

/-- What happens in a step. -/
inductive Event (I : Interface) (T R : Type) where
  /-- A call of the producer is answered. -/
  | asked (x : I.Exchange)
  /-- A task is put on the queue. -/
  | pushed (task : T)
  /-- A task is not wanted any more. -/
  | refused (task : T)
  /-- The producer records a failure. -/
  | recorded (e : Error)
  /-- The producer learns whether no more tasks are wanted. -/
  | polled (ended : Bool)
  /-- The producer ends by itself. -/
  | produced
  /-- A worker takes a task. -/
  | taken (task : T)
  /-- A call in the work on a task is answered. -/
  | worked (task : T) (x : I.Exchange)
  /-- A worker finds a match. -/
  | matched (task : T) (r : R)
  /-- A worker finds nothing. -/
  | missed (task : T)
  /-- A worker fails. -/
  | failed (task : T) (e : Error)
  /-- Anything else. -/
  | other

variable {I : Interface} {T R : Type}

/-- The state in which a search begins. -/
def State.start (x : Search I T R) {W : Type} (world : W) : State I T R W :=
  ⟨world, some x.produce, [], List.replicate x.workers .ready, none, none, false⟩

/-- The outcome that a state shows. -/
def State.outcome {W : Type} (s : State I T R W) : Outcome R :=
  match s.winner, s.failure with
  | some r, _ => .found r
  | none, some e => .failed e
  | none, none => .exhausted

/-- The caller has nothing more to wait for. -/
def State.Final {W : Type} (s : State I T R W) : Prop := s.joined = true ∧ s.producer = none

inductive Step (x : Search I T R) (w : World I) :
    State I T R w.State → Event I T R → State I T R w.State → Prop where
  | answered {s : State I T R w.State} {c : I.Call} {next : I.Reply c → Producer I T}
      {r : I.Reply c} {world : w.State} (hp : s.producer = some (.call (.outer c) next))
      (hw : w.answers s.world c r world) :
      Step x w s (.asked ⟨c, r⟩) { s with world := world, producer := some (next r) }
  /-- A task is put on the queue, which has room for it. -/
  | pushed {s : State I T R w.State} {t : T} {next : Bool → Producer I T}
      (hp : s.producer = some (.call (.push t) next)) (hroom : s.waiting.length < x.capacity)
      (hj : s.joined = false) :
      Step x w s (.pushed t) { s with waiting := s.waiting ++ [t], producer := some (next true) }
  /-- A task is not wanted any more. -/
  | refused {s : State I T R w.State} {t : T} {next : Bool → Producer I T}
      (hp : s.producer = some (.call (.push t) next)) (hover : s.winner.isSome ∨ s.joined = true) :
      Step x w s (.refused t) { s with producer := some (next false) }
  /-- The producer records a failure. -/
  | recorded {s : State I T R w.State} {e : Error} {next : Unit → Producer I T}
      (hp : s.producer = some (.call (.record e) next)) :
      Step x w s (.recorded e) { s with failure := some e, producer := some (next ()) }
  /-- The producer learns whether tasks are wanted. -/
  | polled {s : State I T R w.State} {next : Bool → Producer I T}
      (hp : s.producer = some (.call .isOver next)) :
      Step x w s (.polled (s.winner.isSome || s.joined))
        { s with producer := some (next (s.winner.isSome || s.joined)) }
  /-- The producer ends. -/
  | produced {s : State I T R w.State} (hp : s.producer = some (.ret ())) :
      Step x w s .produced { s with producer := none }
  /-- The producer is dropped after a match. -/
  | dropped {s : State I T R w.State} {p : Producer I T} (hp : s.producer = some p)
      (hover : s.winner.isSome) : Step x w s .other { s with producer := none }
  /-- A worker gets its turn to take a task. -/
  | listened {s : State I T R w.State} {i : Nat} (hi : s.workers[i]? = some .ready)
      (hfree : ∀ p ∈ s.workers, ¬ p.isListening) :
      Step x w s .other { s with workers := s.workers.set i .listening }
  /-- A worker takes a task. -/
  | taken {s : State I T R w.State} {i : Nat} {t : T} {ts : List T}
      (hi : s.workers[i]? = some .listening) (hq : s.waiting = t :: ts) :
      Step x w s (.taken t)
        { s with waiting := ts, workers := s.workers.set i (.busy t (x.work t)) }
  /-- A worker ends after a match. -/
  | left {s : State I T R w.State} {i : Nat} (hi : s.workers[i]? = some .listening)
      (hover : s.winner.isSome) : Step x w s .other { s with workers := s.workers.set i .gone }
  /-- A worker ends because no task will come any more. -/
  | closed {s : State I T R w.State} {i : Nat} (hi : s.workers[i]? = some .listening)
      (hq : s.waiting = []) (hp : s.producer = none) :
      Step x w s .other { s with workers := s.workers.set i .gone }
  /-- A call of a worker is answered. -/
  | worked {s : State I T R w.State} {i : Nat} {t : T} {c : I.Call} {next : I.Reply c → Work I R}
      {r : I.Reply c} {world : w.State} (hi : s.workers[i]? = some (.busy t (.call c next)))
      (hw : w.answers s.world c r world) :
      Step x w s (.worked t ⟨c, r⟩)
        { s with world := world, workers := s.workers.set i (.busy t (next r)) }
  /-- A worker finds a match and ends; an earlier match stays. -/
  | matched {s : State I T R w.State} {i : Nat} {t : T} {r : R}
      (hi : s.workers[i]? = some (.busy t (.ret (.ok (some r))))) :
      Step x w s (.matched t r)
        { s with winner := s.winner.or (some r), workers := s.workers.set i .gone }
  /-- A worker finds nothing. -/
  | missed {s : State I T R w.State} {i : Nat} {t : T}
      (hi : s.workers[i]? = some (.busy t (.ret (.ok none)))) :
      Step x w s (.missed t) { s with workers := s.workers.set i .ready }
  /-- A worker fails. -/
  | failed {s : State I T R w.State} {i : Nat} {t : T} {e : Error}
      (hi : s.workers[i]? = some (.busy t (.ret (.error e)))) :
      Step x w s (.failed t e) { s with failure := some e, workers := s.workers.set i .ready }
  /-- The caller sees that all workers have ended. -/
  | joined {s : State I T R w.State} (hall : ∀ p ∈ s.workers, p.isGone) (hj : s.joined = false) :
      Step x w s .other { s with joined := true }

/-- Several steps, with their events in order. -/
inductive Steps (x : Search I T R) (w : World I) :
    State I T R w.State → List (Event I T R) → State I T R w.State → Prop where
  | refl (s : State I T R w.State) : Steps x w s [] s
  /-- Steps and one step more. -/
  | tail {s₁ s₂ s₃ : State I T R w.State} {es : List (Event I T R)} {e : Event I T R}
      (hs : Steps x w s₁ es s₂) (h : Step x w s₂ e s₃) : Steps x w s₁ (es ++ [e]) s₃

/-- A search can end with this outcome after these events, and leave the world in this state. -/
def Ends (x : Search I T R) (w : World I) (world : w.State) (es : List (Event I T R))
    (o : Outcome R) (after : w.State) : Prop :=
  ∃ s, Steps x w (.start x world) es s ∧ s.Final ∧ s.outcome = o ∧ s.world = after

end NodeAtlas.Search
