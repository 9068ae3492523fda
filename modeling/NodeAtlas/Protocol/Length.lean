import Mathlib.Algebra.BigOperators.Group.Finset.Piecewise
import NodeAtlas.Protocol.World

/-!
# Lengths of runs

A protocol that makes only so many calls, whatever is replied, takes part in so many steps. Where all
protocols are of this kind, a run comes to its end.
-/

namespace NodeAtlas

namespace Protocol

variable {I : Interface} {α β : Type} {p : Protocol I α} {m n : Nat}

/-- Whatever is replied, the protocol makes at most so many calls. -/
def CallsAtMost : Nat → Protocol I α → Prop
  | _, ret _ => True
  | 0, call _ _ => False
  | n + 1, call _ next => ∀ r, CallsAtMost n (next r)

theorem callsAtMost_ret (n : Nat) (a : α) : (ret a : Protocol I α).CallsAtMost n := by
  cases n <;> trivial

theorem callsAtMost_call_iff {c : I.Call} {next : I.Reply c → Protocol I α} :
    (call c next).CallsAtMost n ↔ ∃ m, n = m + 1 ∧ ∀ r, (next r).CallsAtMost m := by
  cases n with
  | zero => simp [CallsAtMost]
  | succ n => simp [CallsAtMost]

theorem CallsAtMost.mono (h : p.CallsAtMost m) (hmn : m ≤ n) : p.CallsAtMost n := by
  induction p generalizing m n with
  | ret a => exact callsAtMost_ret n a
  | call c next ih =>
    obtain ⟨m, rfl, hnext⟩ := callsAtMost_call_iff.mp h
    exact callsAtMost_call_iff.mpr ⟨n - 1, by omega, fun r => ih r (hnext r) (by omega)⟩

theorem CallsAtMost.bind {f : α → Protocol I β} (hp : p.CallsAtMost m)
    (hf : ∀ a, (f a).CallsAtMost n) : (p >>= f).CallsAtMost (m + n) := by
  rw [bind_eq]
  induction p generalizing m with
  | ret a => exact (hf a).mono (by omega)
  | call c next ih =>
    obtain ⟨m, rfl, hnext⟩ := callsAtMost_call_iff.mp hp
    exact callsAtMost_call_iff.mpr ⟨m + n, by omega, fun r => ih r (hnext r)⟩

end Protocol

namespace Interleaving

variable {I : Interface} {l : Locking I} {w : World I} {α : Type}
  {s t : Interleaving I α w.State} {ps : List (Protocol I α)} {es : List (Event I)} {n : Nat}

/-- The budgets of the protocols are enough for the calls that are left and one step more. -/
def InBudget (s : Interleaving I α w.State) (budget : Nat → Nat) : Prop :=
  ∀ i (p : Protocol I α), s.threads[i]? = some (some p) → ∃ n, budget i = n + 1 ∧ p.CallsAtMost n

theorem sum_update {f : Nat → Nat} {i k m : Nat} (hi : i < k) (hm : m < f i) :
    ∑ j ∈ Finset.range k, Function.update f i m j + 1 ≤ ∑ j ∈ Finset.range k, f j := by
  have hmem : i ∈ Finset.range k := Finset.mem_range.mpr hi
  rw [Finset.sum_update_of_mem hmem, Finset.sum_eq_add_sum_sdiff_singleton_of_mem hmem f]
  omega

/-- A step is paid from the budgets. -/
theorem InBudget.step {f : Nat → Nat} (hf : s.InBudget f) {e : Event I} (h : Step l w s e t) :
    ∃ g, t.InBudget g ∧
      ∑ j ∈ Finset.range t.threads.length, g j + 1 ≤ ∑ j ∈ Finset.range s.threads.length, f j := by
  cases h with
  | @answered i c next r world hi hw hlock =>
    have hlt : i < s.threads.length := (List.getElem?_eq_some_iff.mp hi).1
    obtain ⟨n, hn, hcalls⟩ := hf i _ hi
    obtain ⟨m, rfl, hnext⟩ := Protocol.callsAtMost_call_iff.mp hcalls
    refine ⟨Function.update f i (m + 1), fun j p hp => ?_, ?_⟩
    · by_cases hj : j = i
      · subst hj
        rw [List.getElem?_set_self hlt] at hp
        obtain rfl := Option.some.inj (Option.some.inj hp)
        exact ⟨m, Function.update_self .., hnext r⟩
      · rw [List.getElem?_set_ne (Ne.symm hj)] at hp
        rw [Function.update_of_ne hj]
        exact hf j p hp
    · rw [List.length_set]
      exact sum_update hlt (by omega)
  | @abandoned i p hi =>
    have hlt : i < s.threads.length := (List.getElem?_eq_some_iff.mp hi).1
    obtain ⟨n, hn, -⟩ := hf i _ hi
    refine ⟨Function.update f i 0, fun j q hq => ?_, ?_⟩
    · by_cases hj : j = i
      · subst hj
        rw [List.getElem?_set_self hlt] at hq
        cases hq
      · rw [List.getElem?_set_ne (Ne.symm hj)] at hq
        rw [Function.update_of_ne hj]
        exact hf j q hq
    · rw [List.length_set]
      exact sum_update hlt (by omega)

/-- A run of protocols that make at most `n` calls has at most `n + 1` steps for each of them. -/
theorem length_le_of_steps (hps : ∀ p ∈ ps, p.CallsAtMost n) {world : w.State}
    (h : Steps l w (start world ps) es t) : es.length ≤ ps.length * (n + 1) := by
  -- By induction on the run: what has been spent and what is left are within the budgets at the start.
  have hpaid : ∃ f, t.InBudget f ∧
      es.length + ∑ j ∈ Finset.range t.threads.length, f j ≤ ps.length * (n + 1) := by
    induction h with
    | refl =>
      refine ⟨fun _ => n + 1, fun i p hp => ⟨n, rfl, hps p ?_⟩, ?_⟩
      · simp only [start, List.getElem?_map, Option.map_eq_some_iff] at hp
        obtain ⟨q, hq, heq⟩ := hp
        obtain rfl := Option.some.inj heq
        exact List.mem_of_getElem? hq
      · simp [start]
    | tail _ hstep ih =>
      obtain ⟨f, hf, hsum⟩ := ih
      obtain ⟨g, hg, hless⟩ := hf.step hstep
      refine ⟨g, hg, ?_⟩
      rw [List.length_append, List.length_singleton]
      omega
  obtain ⟨f, -, hsum⟩ := hpaid
  omega

/-- Where runs of a kind can go on until everything is over, and none of them is longer than `k`, one of
them comes to the end. -/
theorem exists_final {P : List (Event I) → Interleaving I α w.State → Prop} {k : Nat}
    (hlength : ∀ es t, Steps l w s es t → P es t → es.length ≤ k)
    (hstep : ∀ es t, Steps l w s es t → P es t → ¬ t.Final →
      ∃ e u, Step l w t e u ∧ P (es ++ [e]) u)
    (hs : P [] s) : ∃ es t, Steps l w s es t ∧ P es t ∧ t.Final := by
  by_contra hnone
  -- A run that never comes to the end can be made as long as one likes.
  have hevery : ∀ k, ∃ es t, Steps l w s es t ∧ P es t ∧ es.length = k := by
    intro k
    induction k with
    | zero => exact ⟨[], s, .refl s, hs, rfl⟩
    | succ k ih =>
      obtain ⟨es, t, hrun, ht, rfl⟩ := ih
      obtain ⟨e, u, he, hu⟩ := hstep es t hrun ht fun hfinal => hnone ⟨es, t, hrun, ht, hfinal⟩
      exact ⟨es ++ [e], u, .tail hrun he, hu, by simp⟩
  obtain ⟨es, t, hrun, ht, hlen⟩ := hevery (k + 1)
  have hle := hlength es t hrun ht
  omega

end Interleaving

end NodeAtlas
