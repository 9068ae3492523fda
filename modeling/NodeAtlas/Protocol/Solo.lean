import NodeAtlas.Protocol.Paths
import NodeAtlas.Protocol.World

/-!
# Protocols by themselves

A protocol that has a world to itself makes the exchanges that it can make, as far as the world admits
them one after another. What it does splits where it goes on to its next part, with the state of the
world in between.
-/

namespace NodeAtlas

variable {I : Interface} {α β : Type} {w : World I}

/-- The world can make these exchanges one after another. -/
inductive World.Admits (w : World I) : w.State → List I.Exchange → w.State → Prop where
  /-- Nothing is called. -/
  | nil (s : w.State) : Admits w s [] s
  /-- The first call is answered, then the others. -/
  | cons {s s' s'' : w.State} {c : I.Call} {r : I.Reply c} {es : List I.Exchange}
      (hw : w.answers s c r s') (h : Admits w s' es s'') : Admits w s (⟨c, r⟩ :: es) s''

namespace World

variable {s s' : w.State} {es fs : List I.Exchange}

theorem admits_nil_iff : w.Admits s [] s' ↔ s' = s := by
  constructor
  · intro h
    cases h
    rfl
  · rintro rfl
    exact .nil _

theorem admits_cons_iff {c : I.Call} {r : I.Reply c} :
    w.Admits s (⟨c, r⟩ :: es) s' ↔ ∃ t, w.answers s c r t ∧ w.Admits t es s' := by
  constructor
  · intro h
    cases h with
    | cons hw h => exact ⟨_, hw, h⟩
  · rintro ⟨t, hw, h⟩
    exact .cons hw h

theorem admits_append_iff :
    w.Admits s (es ++ fs) s' ↔ ∃ t, w.Admits s es t ∧ w.Admits t fs s' := by
  induction es generalizing s with
  | nil =>
    constructor
    · intro h
      exact ⟨s, .nil s, h⟩
    · rintro ⟨t, hnil, h⟩
      rwa [admits_nil_iff.mp hnil] at h
  | cons x es ih =>
    obtain ⟨c, r⟩ := x
    rw [List.cons_append, admits_cons_iff]
    constructor
    · rintro ⟨u, hw, h⟩
      obtain ⟨t, hes, hfs⟩ := ih.mp h
      exact ⟨t, .cons hw hes, hfs⟩
    · rintro ⟨t, hes, hfs⟩
      obtain ⟨u, hw, hes⟩ := admits_cons_iff.mp hes
      exact ⟨u, hw, ih.mpr ⟨t, hes, hfs⟩⟩

/-- Every exchange is one that the world can make in some state. -/
theorem Admits.answers (h : w.Admits s es s') : ∀ y ∈ es, ∃ a b, w.answers a y.1 y.2 b := by
  induction h with
  | nil => simp
  | cons hw _ ih => exact List.forall_mem_cons.mpr ⟨⟨_, _, hw⟩, ih⟩

end World

/-- The protocol makes exactly these exchanges by itself and returns the value, and the world is left in
the second state. -/
structure Protocol.Solo (w : World I) (p : Protocol I α) (s : w.State) (es : List I.Exchange) (a : α)
    (s' : w.State) : Prop where
  yields : p.Yields es a
  admits : w.Admits s es s'

namespace Protocol

variable {s s' : w.State} {es : List I.Exchange}

theorem solo_ret_iff {a b : α} : (ret a).Solo w s es b s' ↔ es = [] ∧ b = a ∧ s' = s := by
  constructor
  · rintro ⟨hyields, hadmits⟩
    obtain ⟨rfl, rfl⟩ := yields_ret_iff.mp hyields
    exact ⟨rfl, rfl, World.admits_nil_iff.mp hadmits⟩
  · rintro ⟨rfl, rfl, rfl⟩
    exact ⟨.ret _, .nil _⟩

theorem solo_pure_iff {a b : α} :
    (pure a : Protocol I α).Solo w s es b s' ↔ es = [] ∧ b = a ∧ s' = s := solo_ret_iff

theorem solo_call_iff {c : I.Call} {next : I.Reply c → Protocol I α} {a : α} :
    (call c next).Solo w s es a s' ↔
      ∃ r fs t, w.answers s c r t ∧ (next r).Solo w t fs a s' ∧ es = ⟨c, r⟩ :: fs := by
  constructor
  · rintro ⟨hyields, hadmits⟩
    obtain ⟨r, fs, hnext, rfl⟩ := yields_call_iff.mp hyields
    obtain ⟨t, hw, hfs⟩ := World.admits_cons_iff.mp hadmits
    exact ⟨r, fs, t, hw, ⟨hnext, hfs⟩, rfl⟩
  · rintro ⟨r, fs, t, hw, ⟨hnext, hfs⟩, rfl⟩
    exact ⟨.call r hnext, .cons hw hfs⟩

theorem solo_bind_iff {p : Protocol I α} {f : α → Protocol I β} {b : β} :
    (p >>= f).Solo w s es b s' ↔
      ∃ fs a t gs, p.Solo w s fs a t ∧ (f a).Solo w t gs b s' ∧ es = fs ++ gs := by
  constructor
  · rintro ⟨hyields, hadmits⟩
    obtain ⟨fs, a, gs, hp, hf, rfl⟩ := yields_bind_iff.mp hyields
    obtain ⟨t, hfs, hgs⟩ := World.admits_append_iff.mp hadmits
    exact ⟨fs, a, t, gs, ⟨hp, hfs⟩, ⟨hf, hgs⟩, rfl⟩
  · rintro ⟨fs, a, t, gs, ⟨hp, hfs⟩, ⟨hf, hgs⟩, rfl⟩
    exact ⟨yields_bind_iff.mpr ⟨fs, a, gs, hp, hf, rfl⟩, World.admits_append_iff.mpr ⟨t, hfs, hgs⟩⟩

/-- Playing in a world is making some exchanges by itself. -/
theorem plays_iff_exists_solo {p : Protocol I α} {a : α} :
    p.Plays w s a s' ↔ ∃ es, p.Solo w s es a s' := by
  constructor
  · intro h
    induction h with
    | ret a s => exact ⟨[], .ret a, .nil s⟩
    | call hw _ ih =>
      obtain ⟨es, hes⟩ := ih
      exact ⟨_, solo_call_iff.mpr ⟨_, es, _, hw, hes, rfl⟩⟩
  · rintro ⟨es, h⟩
    induction p generalizing s es with
    | ret b =>
      obtain ⟨-, rfl, rfl⟩ := solo_ret_iff.mp h
      exact .ret _ _
    | call c next ih =>
      obtain ⟨r, fs, t, hw, hnext, -⟩ := solo_call_iff.mp h
      exact .call hw (ih r fs hnext)

theorem plays_bind_iff {p : Protocol I α} {f : α → Protocol I β} {b : β} :
    (p >>= f).Plays w s b s' ↔ ∃ a t, p.Plays w s a t ∧ (f a).Plays w t b s' := by
  constructor
  · intro h
    obtain ⟨es, hsolo⟩ := plays_iff_exists_solo.mp h
    obtain ⟨fs, a, t, gs, hp, hf, -⟩ := solo_bind_iff.mp hsolo
    exact ⟨a, t, plays_iff_exists_solo.mpr ⟨fs, hp⟩, plays_iff_exists_solo.mpr ⟨gs, hf⟩⟩
  · rintro ⟨a, t, hp, hf⟩
    obtain ⟨fs, hfs⟩ := plays_iff_exists_solo.mp hp
    obtain ⟨gs, hgs⟩ := plays_iff_exists_solo.mp hf
    exact plays_iff_exists_solo.mpr ⟨fs ++ gs, solo_bind_iff.mpr ⟨fs, a, t, gs, hfs, hgs, rfl⟩⟩

/-- Where a handler gives answers of the world, running with it is going by oneself. -/
theorem exists_solo_run {h : I.Handler w.State} (hh : ∀ c s, w.answers s c (h c s).1 (h c s).2)
    (p : Protocol I α) (s : w.State) : ∃ es, p.Solo w s es (p.run h s).1 (p.run h s).2 := by
  induction p generalizing s with
  | ret a => exact ⟨[], .ret a, .nil s⟩
  | call c next ih =>
    obtain ⟨es, hes⟩ := ih (h c s).1 (h c s).2
    exact ⟨_, solo_call_iff.mpr ⟨_, es, _, hh c s, hes, rfl⟩⟩

end Protocol

end NodeAtlas
