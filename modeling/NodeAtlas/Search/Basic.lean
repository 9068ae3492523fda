import NodeAtlas.Config.Basic
import NodeAtlas.Error
import NodeAtlas.Protocol

/-!
# Searches

A producer puts tasks on a queue of limited length, and a limited number of workers take them from
it. The first match ends the search; without one, every task is worked on, and a failure shows only
then. This module holds what is searched and the schedule that runs it: the producer goes on until
it has to wait, and then the tasks on the queue are worked off in their order.
-/

namespace NodeAtlas

/-- How a search ends. -/
inductive Outcome (R : Type) where
  /-- There is a match. -/
  | found (r : R)
  /-- Nothing matches and something failed; this is the last failure. -/
  | failed (e : Error)
  /-- Nothing matches and nothing failed. -/
  | exhausted
  deriving DecidableEq, Repr

namespace Search

/-- The calls of a producer: those of the interface, and those on the search. -/
inductive Call (I : Interface) (T : Type) where
  /-- A call of the interface. -/
  | outer (c : I.Call)
  /-- Puts a task on the queue, and tells whether more are wanted. -/
  | push (task : T)
  /-- Records a failure. -/
  | record (e : Error)
  /-- Asks whether no more tasks are wanted. -/
  | isOver

abbrev Reply (I : Interface) (T : Type) : Call I T → Type
  | .outer c => I.Reply c
  | .push _ => Bool
  | .record _ => Unit
  | .isOver => Bool

/-- The calls of a producer as an interface. -/
abbrev interface (I : Interface) (T : Type) : Interface := ⟨Call I T, Reply I T⟩

/-- A producer of tasks. -/
abbrev Producer (I : Interface) (T : Type) : Type := Protocol (interface I T) Unit

/-- The work on a task: a match, a miss or a failure. -/
abbrev Work (I : Interface) (R : Type) : Type := Protocol I (Result (Option R))

/-- Makes a call as a producer. -/
def ask {I : Interface} {T : Type} (c : Call I T) : Protocol (interface I T) (Reply I T c) :=
  .call c .ret

/-- A protocol of the interface as a part of a producer. -/
def lift {I : Interface} {T α : Type} : Protocol I α → Protocol (interface I T) α
  | .ret a => .ret a
  | .call c next => .call (.outer c) fun r => lift (next r)

end Search

/-- A search for an `R` by tasks of type `T`. -/
structure Search (I : Interface) (T R : Type) where
  produce : Search.Producer I T
  /-- The work on a task. -/
  work : T → Search.Work I R
  /-- The number of tasks that may wait. -/
  capacity : Nat
  /-- The number of workers. -/
  workers : Nat

namespace Search

variable {I : Interface} {T R σ : Type}

/-- A search within the given limits, of which zero counts as one. -/
def within (limits : Config.Discovery) (produce : Producer I T) (work : T → Work I R) :
    Search I T R :=
  ⟨produce, work, max limits.queueSize.toNat 1, max limits.poolSize.toNat 1⟩

/-- What producer and workers share. -/
structure Board (T R : Type) where
  /-- The tasks on the queue. -/
  waiting : List T := []
  /-- The first match. -/
  winner : Option R := none
  /-- The last failure. -/
  failure : Option Error := none

/-- The end of the search that a board shows. -/
def Board.outcome (b : Board T R) : Outcome R :=
  match b.winner, b.failure with
  | some r, _ => .found r
  | none, some e => .failed e
  | none, none => .exhausted

/-- Works on tasks in their order until one of them matches. -/
def workOff (work : T → Work I R) (h : I.Handler σ) : List T → Board T R → σ → Board T R × σ
  | [], b, s => ({ b with waiting := [] }, s)
  | t :: ts, b, s =>
    match (work t).run h s with
    | (.ok (some r), s) => ({ b with waiting := ts, winner := some r }, s)
    | (.ok none, s) => workOff work h ts b s
    | (.error e, s) => workOff work h ts { b with failure := some e } s

/-- Runs the producer until it ends or a match makes it superfluous. It waits before a call that
pauses and before a push on a full queue. -/
def runProducer (x : Search I T R) (pauses : I.Call → Bool) (h : I.Handler σ) :
    Producer I T → Board T R → σ → Board T R × σ
  | .ret _, b, s => workOff x.work h b.waiting b s
  | .call (.outer c) next, b, s =>
    let w := if pauses c then workOff x.work h b.waiting b s else (b, s)
    if w.1.winner.isSome then w
    else runProducer x pauses h (next (h c w.2).1) w.1 (h c w.2).2
  | .call (.push t) next, b, s =>
    let w := if b.waiting.length < x.capacity then (b, s) else workOff x.work h b.waiting b s
    if w.1.winner.isSome then w
    else runProducer x pauses h (next true) { w.1 with waiting := w.1.waiting ++ [t] } w.2
  | .call (.record e) next, b, s =>
    runProducer x pauses h (next ()) { b with failure := some e } s
  | .call .isOver next, b, s => runProducer x pauses h (next b.winner.isSome) b s

def run (x : Search I T R) (pauses : I.Call → Bool) (h : I.Handler σ) (s : σ) : Outcome R × σ :=
  let r := x.runProducer pauses h x.produce {} s
  (r.1.outcome, r.2)

end Search

end NodeAtlas
