/-!
# Protocols

A protocol makes calls one after another, each depending on the replies before it, until it returns
a value. It says nothing about how calls are answered: a handler answers them from a state, and
`Yields` relates a protocol to every exchange of calls and replies that is possible at all.
-/

namespace NodeAtlas

/-- The calls that can be made, with the type of the reply to each. -/
structure Interface where
  Call : Type
  Reply : Call → Type

/-- A protocol over an interface that returns an `α`. -/
inductive Protocol (I : Interface) (α : Type) where
  /-- Returns a value. -/
  | ret (value : α)
  /-- Makes a call and goes on with its reply. -/
  | call (c : I.Call) (next : I.Reply c → Protocol I α)

/-- Answers calls from a state, which may change. -/
def Interface.Handler (I : Interface) (σ : Type) : Type := (c : I.Call) → σ → I.Reply c × σ

/-- A call together with its reply. -/
abbrev Interface.Exchange (I : Interface) : Type := (c : I.Call) × I.Reply c

namespace Protocol

variable {I J : Interface} {α β γ σ : Type}

/-- Goes on with the value that a protocol returns. -/
def bind : Protocol I α → (α → Protocol I β) → Protocol I β
  | ret a, f => f a
  | call c next, f => call c fun r => (next r).bind f

instance : Monad (Protocol I) where
  pure := ret
  bind := bind

def run (h : I.Handler σ) : Protocol I α → σ → α × σ
  | ret a, s => (a, s)
  | call c next, s => (next (h c s).1).run h (h c s).2

/-- Carries out every call by a protocol over another interface. -/
def interpret (f : (c : I.Call) → Protocol J (I.Reply c)) : Protocol I α → Protocol J α
  | ret a => ret a
  | call c next => (f c).bind fun r => (next r).interpret f

/-- The protocol can make exactly these exchanges and then return the value. -/
inductive Yields : Protocol I α → List I.Exchange → α → Prop where
  /-- Nothing is called. -/
  | ret (a : α) : Yields (.ret a) [] a
  /-- The first exchange, then the others. -/
  | call {c : I.Call} {next : I.Reply c → Protocol I α} (r : I.Reply c) {es : List I.Exchange}
      {a : α} (h : Yields (next r) es a) : Yields (.call c next) (⟨c, r⟩ :: es) a

/-! ## Laws -/

theorem bind_eq (p : Protocol I α) (f : α → Protocol I β) : p >>= f = p.bind f := rfl

theorem bind_ret (p : Protocol I α) : p.bind ret = p := by
  induction p with
  | ret a => rfl
  | call c next ih => simp only [bind, ih]

theorem bind_assoc (p : Protocol I α) (f : α → Protocol I β) (g : β → Protocol I γ) :
    (p.bind f).bind g = p.bind fun a => (f a).bind g := by
  induction p with
  | ret a => rfl
  | call c next ih => simp only [bind, ih]

instance : LawfulMonad (Protocol I) :=
  LawfulMonad.mk' _ (fun p => bind_ret p) (fun _ _ => rfl) fun p f g => bind_assoc p f g

theorem interpret_bind (h : (c : I.Call) → Protocol J (I.Reply c)) (p : Protocol I α)
    (f : α → Protocol I β) :
    (p.bind f).interpret h = (p.interpret h).bind fun a => (f a).interpret h := by
  induction p with
  | ret a => rfl
  | call c next ih => simp only [bind, interpret, ih, bind_assoc]

theorem run_bind (h : I.Handler σ) (p : Protocol I α) (f : α → Protocol I β) (s : σ) :
    (p.bind f).run h s = (f (p.run h s).1).run h (p.run h s).2 := by
  induction p generalizing s with
  | ret a => rfl
  | call c next ih => simp only [bind, run, ih]

/-- A run with a handler is one of the possible exchanges. -/
theorem exists_yields_run (h : I.Handler σ) (p : Protocol I α) (s : σ) :
    ∃ es, p.Yields es (p.run h s).1 := by
  induction p generalizing s with
  | ret a => exact ⟨[], .ret a⟩
  | call c next ih =>
    obtain ⟨es, hes⟩ := ih (h c s).1 (h c s).2
    exact ⟨⟨c, (h c s).1⟩ :: es, .call (h c s).1 hes⟩

end Protocol

end NodeAtlas
