import NodeAtlas.Protocol

/-!
# Paths through protocols

A protocol that has not returned yet has made some exchanges and still has the rest of its calls
before it. What is known about a sequence of protocols is known about its parts: exchanges split
where the first protocol returned.
-/

namespace NodeAtlas.Protocol

variable {I : Interface} {α β : Type}

/-- The protocol can make exactly these exchanges and is then left with the other protocol. -/
inductive Reaches : Protocol I α → List I.Exchange → Protocol I α → Prop where
  /-- Nothing is called yet. -/
  | refl (p : Protocol I α) : Reaches p [] p
  /-- The first exchange, then the others. -/
  | call {c : I.Call} {next : I.Reply c → Protocol I α} (r : I.Reply c) {es : List I.Exchange}
      {q : Protocol I α} (h : Reaches (next r) es q) : Reaches (.call c next) (⟨c, r⟩ :: es) q

theorem Reaches.answer {p : Protocol I α} {es : List I.Exchange} {c : I.Call}
    {next : I.Reply c → Protocol I α} (h : p.Reaches es (.call c next)) (r : I.Reply c) :
    p.Reaches (es ++ [⟨c, r⟩]) (next r) := by
  generalize hq : Protocol.call c next = q at h
  induction h with
  | refl p => subst hq; exact .call r (.refl _)
  | call r' _ ih => exact .call r' (ih hq)

/-- A protocol that has reached a value yields it. -/
theorem Reaches.yields {p : Protocol I α} {es : List I.Exchange} {a : α}
    (h : p.Reaches es (.ret a)) : p.Yields es a := by
  generalize hq : Protocol.ret a = q at h
  induction h with
  | refl p => subst hq; exact .ret a
  | call r _ ih => exact .call r (ih hq)

/-! ## Yields by cases -/

@[simp] theorem yields_ret_iff {a b : α} {es : List I.Exchange} :
    (ret a : Protocol I α).Yields es b ↔ es = [] ∧ b = a := by
  constructor
  · intro h
    cases h
    exact ⟨rfl, rfl⟩
  · rintro ⟨rfl, rfl⟩
    exact .ret _

@[simp] theorem yields_pure_iff {a b : α} {es : List I.Exchange} :
    (pure a : Protocol I α).Yields es b ↔ es = [] ∧ b = a := yields_ret_iff

theorem yields_call_iff {c : I.Call} {next : I.Reply c → Protocol I α} {es : List I.Exchange}
    {a : α} :
    (call c next).Yields es a ↔ ∃ r fs, (next r).Yields fs a ∧ es = ⟨c, r⟩ :: fs := by
  constructor
  · intro h
    cases h with
    | call r h => exact ⟨r, _, h, rfl⟩
  · rintro ⟨r, fs, h, rfl⟩
    exact .call r h

/-- The exchanges of two protocols in turn split where the first returned. -/
theorem yields_bind_iff {p : Protocol I α} {f : α → Protocol I β} {es : List I.Exchange} {b : β} :
    (p >>= f).Yields es b ↔
      ∃ fs a gs, p.Yields fs a ∧ (f a).Yields gs b ∧ es = fs ++ gs := by
  rw [bind_eq]
  constructor
  · intro h
    induction p generalizing es with
    | ret a => exact ⟨[], a, es, .ret a, h, rfl⟩
    | call c next ih =>
      obtain ⟨r, fs, hr, rfl⟩ := yields_call_iff.mp h
      obtain ⟨fs₁, a, gs, h₁, h₂, rfl⟩ := ih r hr
      exact ⟨⟨c, r⟩ :: fs₁, a, gs, .call r h₁, h₂, rfl⟩
  · rintro ⟨fs, a, gs, h₁, h₂, rfl⟩
    induction h₁ with
    | ret a => exact h₂
    | call r _ ih => exact .call r (ih h₂)

/-- The exchanges made so far determine whether a protocol has returned, and what. -/
theorem Yields.append_inj {p : Protocol I α} {es es' fs fs' : List I.Exchange} {a b : α}
    (h : p.Yields es a) (h' : p.Yields es' b) (heq : es ++ fs = es' ++ fs') :
    es = es' ∧ a = b ∧ fs = fs' := by
  induction h generalizing es' with
  | ret a =>
    obtain ⟨rfl, rfl⟩ := yields_ret_iff.mp h'
    exact ⟨rfl, rfl, heq⟩
  | call r _ ih =>
    obtain ⟨r', gs, hnext, rfl⟩ := yields_call_iff.mp h'
    obtain ⟨hfirst, hrest⟩ := List.cons.inj heq
    cases hfirst
    obtain ⟨rfl, hab, hfs⟩ := ih hnext hrest
    exact ⟨rfl, hab, hfs⟩

/-- What a protocol returns after given exchanges is determined. -/
theorem Yields.unique {p : Protocol I α} {es : List I.Exchange} {a b : α} (h : p.Yields es a)
    (h' : p.Yields es b) : a = b :=
  (h.append_inj h' (rfl : es ++ [] = es ++ [])).2.1

theorem yields_map_iff {p : Protocol I α} {f : α → β} {es : List I.Exchange} {b : β} :
    (f <$> p).Yields es b ↔ ∃ a, p.Yields es a ∧ b = f a := by
  rw [map_eq_pure_bind, yields_bind_iff]
  constructor
  · rintro ⟨fs, a, gs, h, hret, rfl⟩
    obtain ⟨rfl, rfl⟩ := yields_pure_iff.mp hret
    rw [List.append_nil]
    exact ⟨a, h, rfl⟩
  · rintro ⟨a, h, rfl⟩
    exact ⟨es, a, [], h, .ret _, (List.append_nil es).symm⟩

/-- A protocol whose calls are carried out makes the exchanges that they take, one call after another. -/
theorem yields_interpret_iff {J : Interface} {f : (c : I.Call) → Protocol J (I.Reply c)}
    {p : Protocol I α} {es : List J.Exchange} {a : α} :
    (p.interpret f).Yields es a ↔ ∃ parts : List (I.Exchange × List J.Exchange),
      p.Yields (parts.map (·.1)) a ∧ (∀ x ∈ parts, (f x.1.1).Yields x.2 x.1.2) ∧
        es = parts.flatMap (·.2) := by
  constructor
  · intro h
    induction p generalizing es with
    | ret b =>
      obtain ⟨rfl, rfl⟩ := yields_ret_iff.mp h
      exact ⟨[], .ret a, by simp, rfl⟩
    | call c next ih =>
      obtain ⟨fs, r, gs, hcall, hrest, rfl⟩ := yields_bind_iff.mp h
      obtain ⟨parts, hnext, hparts, rfl⟩ := ih r hrest
      exact ⟨⟨⟨c, r⟩, fs⟩ :: parts, .call r hnext, List.forall_mem_cons.mpr ⟨hcall, hparts⟩, rfl⟩
  · rintro ⟨parts, h, hparts, rfl⟩
    induction parts generalizing p with
    | nil =>
      cases h
      exact .ret a
    | cons x parts ih =>
      obtain ⟨⟨c, r⟩, fs⟩ := x
      obtain ⟨hcall, hrest⟩ := List.forall_mem_cons.mp hparts
      cases h with
      | call _ hnext => exact yields_bind_iff.mpr ⟨fs, r, _, hcall, ih hnext hrest, rfl⟩

/-! ## Calls after exchanges -/

/-- After exactly these exchanges the protocol makes this call. -/
inductive Asks : Protocol I α → List I.Exchange → I.Call → Prop where
  /-- It is the first call. -/
  | here (c : I.Call) (next : I.Reply c → Protocol I α) : Asks (.call c next) [] c
  /-- The first exchange comes before. -/
  | later {c d : I.Call} {next : I.Reply c → Protocol I α} (r : I.Reply c) {es : List I.Exchange}
      (h : Asks (next r) es d) : Asks (.call c next) (⟨c, r⟩ :: es) d

theorem not_asks_ret (a : α) (es : List I.Exchange) (c : I.Call) :
    ¬ (ret a : Protocol I α).Asks es c := nofun

theorem Reaches.asks {p q : Protocol I α} {es fs : List I.Exchange} {y : I.Exchange}
    (h : p.Reaches (es ++ y :: fs) q) : p.Asks es y.1 := by
  induction es generalizing p with
  | nil =>
    cases h
    exact .here _ _
  | cons x es ih =>
    cases h with
    | call r h => exact .later r (ih h)

/-- Of two protocols in turn, the first makes the call or, when it has returned, the second. -/
theorem asks_bind_iff {p : Protocol I α} {f : α → Protocol I β} {es : List I.Exchange} {d : I.Call} :
    (p >>= f).Asks es d ↔
      p.Asks es d ∨ ∃ fs a gs, p.Yields fs a ∧ (f a).Asks gs d ∧ es = fs ++ gs := by
  rw [bind_eq]
  constructor
  · intro h
    induction p generalizing es with
    | ret a => exact .inr ⟨[], a, es, .ret a, h, rfl⟩
    | call c next ih =>
      cases h with
      | here => exact .inl (.here _ _)
      | later r h =>
        rcases ih r h with h | ⟨fs, a, gs, h₁, h₂, rfl⟩
        · exact .inl (.later r h)
        · exact .inr ⟨⟨c, r⟩ :: fs, a, gs, .call r h₁, h₂, rfl⟩
  · rintro (h | ⟨fs, a, gs, h₁, h₂, rfl⟩)
    · induction h with
      | here c next => exact .here _ _
      | later r _ ih => exact .later r ih
    · induction h₁ with
      | ret a => exact h₂
      | call r _ ih => exact .later r (ih h₂)

/-! ## Calls of one kind -/

/-- Whatever is replied, the protocol makes only calls of this kind. -/
def Only (P : I.Call → Prop) (p : Protocol I α) : Prop := ∀ es c, p.Asks es c → P c

section Only

variable {P : I.Call → Prop} {p : Protocol I α}

theorem only_ret (a : α) : (ret a : Protocol I α).Only P := by
  intro es c h
  exact (not_asks_ret a es c h).elim

theorem only_call_iff {c : I.Call} {next : I.Reply c → Protocol I α} :
    (call c next).Only P ↔ P c ∧ ∀ r, (next r).Only P := by
  constructor
  · intro h
    exact ⟨h [] c (.here c next), fun r es d hd => h (⟨c, r⟩ :: es) d (.later r hd)⟩
  · rintro ⟨hc, hnext⟩ es d hd
    cases hd with
    | here => exact hc
    | later r hd => exact hnext r _ d hd

theorem Only.bind {f : α → Protocol I β} (hp : p.Only P) (hf : ∀ a, (f a).Only P) :
    (p >>= f).Only P := by
  intro es c h
  rcases asks_bind_iff.mp h with h | ⟨fs, a, gs, -, h, -⟩
  · exact hp es c h
  · exact hf a gs c h

/-- If the calls of one kind are carried out by calls of another kind, so is a whole protocol. -/
theorem Only.interpret {J : Interface} {R : J.Call → Prop}
    {f : (c : I.Call) → Protocol J (I.Reply c)} (hp : p.Only P) (hf : ∀ c, P c → (f c).Only R) :
    (p.interpret f).Only R := by
  induction p with
  | ret a => exact only_ret a
  | call c next ih =>
    obtain ⟨hc, hnext⟩ := only_call_iff.mp hp
    exact (hf c hc).bind fun r => ih r (hnext r)

end Only

end NodeAtlas.Protocol
