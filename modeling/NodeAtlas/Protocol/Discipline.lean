import Mathlib.Logic.Function.Basic
import Mathlib.Tactic.Push
import NodeAtlas.Protocol.World

/-!
# Disciplines

Protocols that run side by side can count on one another only if all of them keep to the same rules. A
discipline says in which positions a protocol can be, which calls it may make there, and to which
positions the replies lead. Whether a protocol keeps it is seen from the protocol alone; what holds of
the whole then follows step by step from the positions of all protocols.
-/

namespace NodeAtlas

/-- Rules for protocols that share a lock. -/
structure Discipline (I : Interface) (l : Locking I) (G : Type) where
  /-- The call may be made in a position. -/
  allows : G → I.Call → Prop
  /-- The exchange leads from one position to another. -/
  leads : G → I.Exchange → G → Prop
  /-- The lock is held in a position. -/
  holds : G → Prop
  /-- Nobody waits for a lock that he holds. -/
  not_holds_of_takes : ∀ {g c}, allows g c → l.takes c = true → ¬ holds g
  holds_of_takes : ∀ {g c r g'}, l.takes c = true → leads g ⟨c, r⟩ g' → holds g'
  not_holds_of_gives : ∀ {g c r g'}, l.takes c = false → l.gives c = true →
    leads g ⟨c, r⟩ g' → ¬ holds g'
  holds_iff : ∀ {g c r g'}, l.takes c = false → l.gives c = false → leads g ⟨c, r⟩ g' →
    (holds g' ↔ holds g)

namespace Protocol

variable {I J : Interface} {l : Locking I} {G α β : Type} {d : Discipline I l G}
  {Q : α → G → Prop} {g : G}

/-- Whatever is replied, the protocol makes only calls that are allowed, and it returns only values that
are right for its position. -/
def Keeps (d : Discipline I l G) (Q : α → G → Prop) : Protocol I α → G → Prop
  | ret a, g => Q a g
  | call c next, g => d.allows g c ∧ ∀ r g', d.leads g ⟨c, r⟩ g' → Keeps d Q (next r) g'

theorem keeps_call_iff {c : I.Call} {next : I.Reply c → Protocol I α} :
    (call c next).Keeps d Q g ↔
      d.allows g c ∧ ∀ r g', d.leads g ⟨c, r⟩ g' → (next r).Keeps d Q g' := .rfl

theorem Keeps.mono {Q' : α → G → Prop} {p : Protocol I α} (h : p.Keeps d Q g)
    (himp : ∀ a g, Q a g → Q' a g) : p.Keeps d Q' g := by
  induction p generalizing g with
  | ret a => exact himp a g h
  | call c next ih =>
    obtain ⟨hallowed, hnext⟩ := h
    exact ⟨hallowed, fun r g' hleads => ih r (hnext r g' hleads)⟩

/-- Of two protocols in turn, the second starts where the first returned. -/
theorem keeps_bind_iff {p : Protocol I α} {f : α → Protocol I β} {R : β → G → Prop} :
    (p >>= f).Keeps d R g ↔ p.Keeps d (fun a g' => (f a).Keeps d R g') g := by
  rw [bind_eq]
  induction p generalizing g with
  | ret a => exact .rfl
  | call c next ih =>
    simp only [bind, keeps_call_iff, ih]

theorem keeps_map_iff {p : Protocol I α} {f : α → β} {R : β → G → Prop} :
    (f <$> p).Keeps d R g ↔ p.Keeps d (fun a g' => R (f a) g') g := by
  rw [map_eq_pure_bind, keeps_bind_iff]
  exact .rfl

/-- If every call is carried out between positions of one kind, so is a whole protocol. -/
theorem keeps_interpret {P : G → Prop} {f : (c : J.Call) → Protocol I (J.Reply c)}
    (hf : ∀ c g, P g → (f c).Keeps d (fun _ g' => P g') g) (p : Protocol J α) (hg : P g) :
    (p.interpret f).Keeps d (fun _ g' => P g') g := by
  induction p generalizing g with
  | ret a => exact hg
  | call c next ih =>
    unfold interpret
    rw [← bind_eq, keeps_bind_iff]
    exact (hf c g hg).mono fun r g' hg' => ih r hg'

end Protocol

namespace Interleaving

variable {I : Interface} {l : Locking I} {G α W : Type} {d : Discipline I l G}
  {Q : Nat → α → G → Prop} {s : Interleaving I α W} {pos : Nat → G}

theorem holderAfter_self_iff {i : Nat} {c : I.Call} {holder : Option Nat} :
    holderAfter l i c holder = some i ↔
      l.takes c = true ∨ l.gives c = false ∧ holder = some i := by
  unfold holderAfter
  cases l.takes c with
  | true => simp
  | false => cases l.gives c <;> by_cases hholder : holder = some i <;> simp [hholder]

theorem holderAfter_of_ne {i j : Nat} (hj : j ≠ i) {c : I.Call} {holder : Option Nat}
    (hlock : l.takes c = true → holder = none) :
    holderAfter l i c holder = some j ↔ holder = some j := by
  unfold holderAfter
  cases htakes : l.takes c with
  | true => simp [hlock htakes, Ne.symm hj]
  | false =>
    cases l.gives c <;> by_cases hholder : holder = some i <;> simp [hholder, Ne.symm hj]

/-- Every protocol keeps the discipline from its position on, and the lock is held by the one whose
position says so. -/
structure Tracks (d : Discipline I l G) (Q : Nat → α → G → Prop) (s : Interleaving I α W)
    (pos : Nat → G) : Prop where
  keeps : ∀ i (p : Protocol I α), s.threads[i]? = some (some p) → p.Keeps d (Q i) (pos i)
  holder_iff : ∀ i, s.holder = some i ↔
    (∃ p, s.threads[i]? = some (some p)) ∧ d.holds (pos i)

theorem tracks_start {w : W} {ps : List (Protocol I α)} {g : G}
    (h : ∀ i (p : Protocol I α), ps[i]? = some p → p.Keeps d (Q i) g) (hg : ¬ d.holds g) :
    (start w ps).Tracks d Q fun _ => g where
  keeps i p hp := by
    simp only [start, List.getElem?_map, Option.map_eq_some_iff] at hp
    obtain ⟨q, hq, heq⟩ := hp
    obtain rfl := Option.some.inj heq
    exact h i q hq
  holder_iff i := by
    constructor
    · intro hholder
      cases hholder
    · rintro ⟨-, hholds⟩
      exact absurd hholds hg

namespace Tracks

theorem allows (h : s.Tracks d Q pos) {i : Nat} {c : I.Call} {next : I.Reply c → Protocol I α}
    (hi : s.threads[i]? = some (some (.call c next))) : d.allows (pos i) c := (h.keeps i _ hi).1

theorem eq_of_holds (h : s.Tracks d Q pos) {i j : Nat} {p q : Protocol I α}
    (hi : s.threads[i]? = some (some p)) (hholds : d.holds (pos i))
    (hj : s.threads[j]? = some (some q)) (hholds' : d.holds (pos j)) : i = j := by
  have hholder := (h.holder_iff i).mpr ⟨⟨p, hi⟩, hholds⟩
  rw [(h.holder_iff j).mpr ⟨⟨q, hj⟩, hholds'⟩] at hholder
  exact (Option.some.inj hholder).symm

/-- An exchange moves the position of the protocol that makes it. -/
theorem answered (h : s.Tracks d Q pos) {i : Nat} {c : I.Call} {next : I.Reply c → Protocol I α}
    {r : I.Reply c} {w : W} {g : G} (hi : s.threads[i]? = some (some (.call c next)))
    (hlock : l.takes c = true → s.holder = none) (hleads : d.leads (pos i) ⟨c, r⟩ g) :
    Tracks d Q ⟨w, s.threads.set i (some (next r)), holderAfter l i c s.holder⟩
      (Function.update pos i g) where
  keeps j p hp := by
    by_cases hj : j = i
    · subst hj
      obtain ⟨-, hnext⟩ := h.keeps j _ hi
      rw [List.getElem?_set_self (List.getElem?_eq_some_iff.mp hi).1] at hp
      obtain rfl := Option.some.inj (Option.some.inj hp)
      rw [Function.update_self]
      exact hnext r g hleads
    · rw [List.getElem?_set_ne (Ne.symm hj)] at hp
      rw [Function.update_of_ne hj]
      exact h.keeps j p hp
  holder_iff j := by
    by_cases hj : j = i
    · subst hj
      rw [holderAfter_self_iff, h.holder_iff j, Function.update_self,
        List.getElem?_set_self (List.getElem?_eq_some_iff.mp hi).1]
      have hbefore : ∃ p, s.threads[j]? = some (some p) := ⟨_, hi⟩
      have hafter : ∃ p, some (some (next r)) = some (some p) := ⟨_, rfl⟩
      simp only [hbefore, hafter, true_and]
      cases htakes : l.takes c with
      | true => simp [d.holds_of_takes htakes hleads]
      | false =>
        cases hgives : l.gives c with
        | true => simp [d.not_holds_of_gives htakes hgives hleads]
        | false => simp [d.holds_iff htakes hgives hleads]
    · rw [holderAfter_of_ne hj hlock, Function.update_of_ne hj, List.getElem?_set_ne (Ne.symm hj)]
      exact h.holder_iff j

theorem abandoned (h : s.Tracks d Q pos) {i : Nat} {p : Protocol I α}
    (hi : s.threads[i]? = some (some p)) :
    Tracks d Q ⟨s.world, s.threads.set i none, if s.holder = some i then none else s.holder⟩ pos where
  keeps j q hq := by
    by_cases hj : j = i
    · subst hj
      rw [List.getElem?_set_self (List.getElem?_eq_some_iff.mp hi).1] at hq
      cases hq
    · rw [List.getElem?_set_ne (Ne.symm hj)] at hq
      exact h.keeps j q hq
  holder_iff j := by
    have hbefore := h.holder_iff j
    by_cases hj : j = i
    · subst hj
      rw [List.getElem?_set_self (List.getElem?_eq_some_iff.mp hi).1]
      by_cases hholder : s.holder = some j
      · simp [hholder]
      · simp [hholder]
    · rw [List.getElem?_set_ne (Ne.symm hj), ← hbefore]
      by_cases hholder : s.holder = some i
      · simp [hholder, Ne.symm hj]
      · simp [hholder]

/-- If nobody returns with the lock, the protocols do not block each other: unless all of them have
returned, one of them can make its next call. -/
theorem exists_ready (h : s.Tracks d Q pos) (hQ : ∀ i a g, Q i a g → ¬ d.holds g)
    (hs : ¬ s.Final) :
    ∃ (i : Nat) (c : I.Call) (next : I.Reply c → Protocol I α),
      s.threads[i]? = some (some (.call c next)) ∧ (l.takes c = true → s.holder = none) := by
  unfold Final at hs
  push Not at hs
  obtain ⟨p, hp, hcall⟩ := hs
  obtain ⟨i, hi⟩ := List.mem_iff_getElem?.mp hp
  cases p with
  | ret a => exact absurd rfl (hcall a)
  | call c next =>
    cases hholder : s.holder with
    | none => exact ⟨i, c, next, hi, fun _ => rfl⟩
    | some j =>
      -- Whoever holds the lock is not waiting for it.
      obtain ⟨⟨q, hj⟩, hholds⟩ := (h.holder_iff j).mp hholder
      cases q with
      | ret a => exact absurd hholds (hQ j a _ (h.keeps j _ hj))
      | call c' next' =>
        refine ⟨j, c', next', hj, fun htakes => ?_⟩
        exact absurd hholds (d.not_holds_of_takes (h.allows hj) htakes)

end Tracks

end Interleaving

end NodeAtlas
