import NodeAtlas.Protocol

/-!
# Worlds

A world answers the calls of an interface, and may answer a call in several ways or, for the time
being, not at all. Protocols that run side by side make their calls in any order and may share a
lock; `Interleaving.Step` says which of them can go on.
-/

namespace NodeAtlas

/-- Answers to calls that depend on a state and need not be determined by it. -/
structure World (I : Interface) where
  State : Type
  /-- The replies to a call, each with the state that it leads to. -/
  answers : State → (c : I.Call) → I.Reply c → State → Prop

namespace World

variable {I : Interface}

/-- Every call is answered in every state. -/
def Responsive (w : World I) : Prop := ∀ s c, ∃ r s', w.answers s c r s'

/-- The world in which a handler answers. -/
def ofHandler {σ : Type} (h : I.Handler σ) : World I := ⟨σ, fun s c r s' => (r, s') = h c s⟩

theorem responsive_ofHandler {σ : Type} (h : I.Handler σ) : (ofHandler h).Responsive :=
  fun s c => ⟨(h c s).1, (h c s).2, rfl⟩

end World

/-- A protocol that runs by itself in a world can return this value and leave the world in the second
state. -/
inductive Protocol.Plays {I : Interface} {α : Type} (w : World I) :
    Protocol I α → w.State → α → w.State → Prop where
  /-- Nothing is called. -/
  | ret (a : α) (s : w.State) : Plays w (.ret a) s a s
  /-- The first call is answered, then the others. -/
  | call {c : I.Call} {next : I.Reply c → Protocol I α} {s₁ s₂ s₃ : w.State} {r : I.Reply c} {a : α}
      (hw : w.answers s₁ c r s₂) (h : Plays w (next r) s₂ a s₃) : Plays w (.call c next) s₁ a s₃

namespace Protocol

variable {I : Interface} {α : Type} {w : World I}

@[simp] theorem plays_ret_iff {a b : α} {s s' : w.State} :
    Plays w (.ret a) s b s' ↔ b = a ∧ s' = s := by
  constructor
  · intro h
    cases h
    exact ⟨rfl, rfl⟩
  · rintro ⟨rfl, rfl⟩
    exact .ret _ _

@[simp] theorem plays_call_iff {c : I.Call} {next : I.Reply c → Protocol I α} {a : α}
    {s s' : w.State} :
    Plays w (.call c next) s a s' ↔ ∃ r t, w.answers s c r t ∧ Plays w (next r) t a s' := by
  constructor
  · intro h
    cases h with
    | call hw h => exact ⟨_, _, hw, h⟩
  · rintro ⟨r, t, hw, h⟩
    exact .call hw h

end Protocol

/-- The calls of an interface that take a lock, and those that give it back. -/
structure Locking (I : Interface) where
  takes : I.Call → Bool
  /-- The call gives the lock back. -/
  gives : I.Call → Bool

/-- Protocols side by side in a world. -/
structure Interleaving (I : Interface) (α W : Type) where
  /-- The state of the world. -/
  world : W
  /-- What is left of each protocol, unless it was abandoned. -/
  threads : List (Option (Protocol I α))
  /-- The protocol that holds the lock. -/
  holder : Option Nat

namespace Interleaving

variable {I : Interface} {α : Type}

/-- What happens in a step. -/
inductive Event (I : Interface) where
  /-- A call of the protocol at place `i` is answered. -/
  | answered (i : Nat) (x : I.Exchange)
  /-- The protocol at place `i` is abandoned. -/
  | abandoned (i : Nat)

/-- The holder of the lock after a call of the protocol at place `i`. -/
def holderAfter (l : Locking I) (i : Nat) (c : I.Call) (holder : Option Nat) : Option Nat :=
  if l.takes c then some i else if l.gives c && holder == some i then none else holder

/-- One of the protocols goes on. A call that takes the lock is answered only while nobody holds it,
and who is abandoned loses it. -/
inductive Step (l : Locking I) (w : World I) :
    Interleaving I α w.State → Event I → Interleaving I α w.State → Prop where
  | answered {s : Interleaving I α w.State} {i : Nat} {c : I.Call}
      {next : I.Reply c → Protocol I α} {r : I.Reply c} {world : w.State}
      (hi : s.threads[i]? = some (some (.call c next))) (hw : w.answers s.world c r world)
      (hlock : l.takes c = true → s.holder = none) :
      Step l w s (.answered i ⟨c, r⟩)
        ⟨world, s.threads.set i (some (next r)), holderAfter l i c s.holder⟩
  | abandoned {s : Interleaving I α w.State} {i : Nat} {p : Protocol I α}
      (hi : s.threads[i]? = some (some p)) :
      Step l w s (.abandoned i)
        ⟨s.world, s.threads.set i none, if s.holder = some i then none else s.holder⟩

/-- Several steps, with their events in order. -/
inductive Steps (l : Locking I) (w : World I) :
    Interleaving I α w.State → List (Event I) → Interleaving I α w.State → Prop where
  | refl (s : Interleaving I α w.State) : Steps l w s [] s
  /-- Steps and one step more. -/
  | tail {s₁ s₂ s₃ : Interleaving I α w.State} {es : List (Event I)} {e : Event I}
      (hs : Steps l w s₁ es s₂) (h : Step l w s₂ e s₃) : Steps l w s₁ (es ++ [e]) s₃

/-- The protocols at their beginning. -/
def start {W : Type} (world : W) (ps : List (Protocol I α)) : Interleaving I α W :=
  ⟨world, ps.map some, none⟩

/-- All protocols have returned or were abandoned. -/
def Final {W : Type} (s : Interleaving I α W) : Prop :=
  ∀ p, some p ∈ s.threads → ∃ a, p = .ret a

end Interleaving

end NodeAtlas
