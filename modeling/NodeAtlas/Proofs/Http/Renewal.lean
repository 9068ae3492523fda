import NodeAtlas.Proofs.Http.Answers
import NodeAtlas.Proofs.Http.Turns

/-!
# When a session is renewed

In every run of callers that share a client, whoever is about to log in has the lock, and it has seen
with the lock in its hands that the session could not be used. Until the login is over nobody puts
another session in its place, so that a session that could be used is never replaced.
-/

namespace NodeAtlas.Http

open Protocol Interleaving

variable {σ α : Type} {server : Server σ} {es fs : List (Event interface)} {e : Event interface}
  {i j : Nat}

/-! ## Sessions that cannot be used -/

theorem refused_append (es fs : List (Event interface)) :
    refused (es ++ fs) = refused es ++ refused fs := by
  simp [refused, List.filterMap_append]

theorem refused_singleton (i : Nat) (x : interface.Exchange) :
    refused [.answered i x] = (refused? x).toList := by
  unfold refused Event.exchange?
  cases h : refused? x <;> simp [h]

namespace ClientState

variable {s s' : ClientState σ}

theorem stale_of_not_isLive (h : s.isLive = false) (es : List (Event interface)) : s.Stale es := by
  intro a since hsession
  left
  exact (isLiveAt_eq_false_iff hsession (Nat.le_refl _)).mp h

theorem stale_of_auth (h : ∀ a, s.auth = some a → a.token ∈ refused es) : s.Stale es := by
  intro a since hsession
  right
  exact h a (auth_of_session hsession)

theorem Stale.append (h : s.Stale es) (fs : List (Event interface)) : s.Stale (es ++ fs) := by
  intro a since hsession
  rw [refused_append, List.mem_append]
  exact (h a since hsession).imp_right .inl

/-- A session that cannot be used does not become usable. -/
theorem Stale.answers (h : s.Stale es) {c : Call} {r : Reply c}
    (hw : (world server).answers s c r s') (hc : ∀ a, c ≠ .setAuth a) : s'.Stale es := by
  intro a since hs'
  rcases session_of_answers hc hw with hsame | hgone
  · rw [hsame] at hs'
    refine (h a since hs').imp_left fun hold => ?_
    have hclock := clock_le_of_answers hw
    rw [lifetime_of_answers hw]
    omega
  · rw [hgone] at hs'
    cases hs'

/-- What a caller takes for a session that cannot be used is one. -/
theorem stale_of_look {c : Call} {r : Reply c} (hw : (world server).answers s c r s')
    (hlook : (⟨c, r⟩ : interface.Exchange) = ⟨.isLive, false⟩ ∨
      ∃ a : Option Auth, (⟨c, r⟩ : interface.Exchange) = ⟨.auth, a⟩ ∧
        ∀ b, a = some b → b.token ∈ refused es) : s'.Stale es := by
  rcases hlook with hlive | ⟨a, hauth, ha⟩
  · cases hlive
    exact stale_of_not_isLive (isLive_of_answers hw).symm es
  · cases hauth
    obtain rfl := auth_of_answers hw
    exact stale_of_auth ha

end ClientState

/-! ## Decisions -/

/-- The caller has just looked at the session. -/
def Looked (i : Nat) (es : List (Event interface)) : Prop :=
  ∃ fs x, es = fs ++ [.answered i x] ∧ (x.1 = .isLive ∨ x.1 = .auth)

/-- The session is not replaced, and the caller at place `i` does not lose its turn. -/
def Undisturbed (i : Nat) : Event interface → Prop
  | .answered _ ⟨.setAuth _, _⟩ => False
  | .answered j ⟨.unlock, _⟩ => j ≠ i
  | .answered _ _ => True
  | .abandoned j => j ≠ i

/-- In the run, the caller has decided that it has to log in: it had the lock and saw that the session
could not be used, and since then nobody has replaced the session and the lock is still its own. -/
def Decided (server : Server σ) (s : Interleaving interface α (ClientState σ))
    (es : List (Event interface)) (t : Interleaving interface α (ClientState σ)) (i : Nat) : Prop :=
  ∃ fs gs u, es = fs ++ gs ∧ Steps turns (ClientState.world server) s fs u ∧
    Steps turns (ClientState.world server) u gs t ∧ u.holder = some i ∧ Looked i fs ∧
    u.world.Stale fs ∧ ∀ e ∈ gs, Undisturbed i e

variable {s t u : Interleaving interface α (ClientState σ)}

theorem Decided.step (h : Decided server s es t i)
    (hstep : Step turns (ClientState.world server) t e u) (he : Undisturbed i e) :
    Decided server s (es ++ [e]) u i := by
  obtain ⟨fs, gs, v, rfl, hfs, hgs, hholder, hlooked, hstale, hquiet⟩ := h
  refine ⟨fs, gs ++ [e], v, List.append_assoc .., hfs, .tail hgs hstep, hholder, hlooked, hstale, ?_⟩
  intro e' he'
  rcases List.mem_append.mp he' with he' | he'
  · exact hquiet e' he'
  · rw [List.mem_singleton.mp he']
    exact he

/-! ## Runs -/

namespace Turn

variable {g : Turn} {x : interface.Exchange}

theorem mem_refused_after {token : String} (h : token ∈ (g.after x).refused) :
    token ∈ g.refused ∨ refused? x = some token := by
  obtain ⟨c, r⟩ := x
  cases c with
  | send q =>
    rcases List.mem_append.mp h with h | h
    · exact .inr (Option.mem_toList.mp h)
    · exact .inl h
  | auth =>
    simp only [after, look] at h
    split at h <;> exact .inl h
  | isLive =>
    simp only [after, look] at h
    split at h <;> exact .inl h
  | _ => exact .inl h

theorem stage_look_eq_entitled_iff {b : Bool} :
    (g.look b).stage = .entitled ↔ g.stage = .entitled ∨ g.stage = .inside ∧ b = true := by
  unfold look
  split_ifs with h
  · simp [h]
  · simp [h]

/-- Who is entitled has been so before, or has just looked at a session that cannot be used. -/
theorem stage_after_eq_entitled (h : (g.after x).stage = .entitled) :
    g.stage = .entitled ∧ (∀ a, x.1 ≠ .setAuth a) ∧ x.1 ≠ .unlock ∨
      x = ⟨.isLive, false⟩ ∨ ∃ a : Option Auth, x = ⟨.auth, a⟩ ∧
        ∀ b, a = some b → b.token ∈ g.refused := by
  obtain ⟨c, r⟩ := x
  cases c with
  | auth =>
    rcases stage_look_eq_entitled_iff.mp h with hg | ⟨-, hunusable⟩
    · exact .inl ⟨hg, nofun, nofun⟩
    · refine .inr (.inr ⟨r, rfl, ?_⟩)
      rintro b rfl
      simpa using hunusable
  | isLive =>
    rcases stage_look_eq_entitled_iff.mp h with hg | ⟨-, hdead⟩
    · exact .inl ⟨hg, nofun, nofun⟩
    · rw [Bool.not_eq_true'] at hdead
      exact .inr (.inl (by rw [hdead]))
  | setAuth a =>
    simp only [after] at h
    split at h
    · cases h
    · exact absurd h ‹_›
  | lock => cases h
  | unlock => cases h
  | _ => exact .inl ⟨h, nofun, nofun⟩

end Turn

/-- What holds of every run of callers that keep to the rules. -/
structure Orderly (server : Server σ) (s : Interleaving interface α (ClientState σ))
    (es : List (Event interface)) (t : Interleaving interface α (ClientState σ)) (pos : Nat → Turn) :
    Prop where
  tracks : t.Tracks Turn.rules (fun _ _ g => g.stage = .outside) pos
  refused : ∀ i token, token ∈ (pos i).refused → token ∈ refused es
  decided : ∀ i, t.holder = some i → (pos i).stage = .entitled →
    t.world.Stale es ∧ Decided server s es t i

namespace Orderly

variable {pos : Nat → Turn}

theorem holder_eq (h : Orderly server s es t pos) {p : Protocol interface α}
    (hi : t.threads[i]? = some (some p)) (hentitled : (pos i).stage = .entitled) :
    t.holder = some i := by
  refine (h.tracks.holder_iff i).mpr ⟨⟨p, hi⟩, fun houtside => ?_⟩
  rw [hentitled] at houtside
  cases houtside

/-- While somebody is entitled, nobody else replaces the session. -/
theorem eq_of_setAuth (h : Orderly server s es t pos) {a : Option Auth}
    {next : Unit → Protocol interface α} (hi : t.threads[i]? = some (some (.call (.setAuth a) next)))
    (hj : t.holder = some j) : j = i := by
  rw [h.holder_eq hi (h.tracks.allows hi)] at hj
  exact (Option.some.inj hj).symm

theorem abandoned (h : Orderly server s es t pos) {p : Protocol interface α}
    (hi : t.threads[i]? = some (some p)) :
    Orderly server s (es ++ [.abandoned i])
      ⟨t.world, t.threads.set i none, if t.holder = some i then none else t.holder⟩ pos where
  tracks := h.tracks.abandoned hi
  refused j token htoken := by
    rw [refused_append]
    exact List.mem_append_left _ (h.refused j token htoken)
  decided j hj hentitled := by
    simp only at hj
    split at hj
    · cases hj
    · rename_i hother
      obtain ⟨hstale, hdecided⟩ := h.decided j hj hentitled
      refine ⟨hstale.append _, hdecided.step (.abandoned hi) ?_⟩
      rintro rfl
      exact hother hj

theorem answered (h : Orderly server s es t pos)
    (hs : Steps turns (ClientState.world server) s es t) {c : Call} {r : Reply c}
    {next : Reply c → Protocol interface α} {world : ClientState σ}
    (hi : t.threads[i]? = some (some (.call c next)))
    (hw : (ClientState.world server).answers t.world c r world)
    (hlock : turns.takes c = true → t.holder = none) :
    Orderly server s (es ++ [.answered i ⟨c, r⟩])
      ⟨world, t.threads.set i (some (next r)), holderAfter turns i c t.holder⟩
      (Function.update pos i ((pos i).after ⟨c, r⟩)) where
  tracks := h.tracks.answered hi hlock rfl
  refused j token htoken := by
    rw [refused_append, List.mem_append, refused_singleton, Option.mem_toList]
    by_cases hj : j = i
    · subst hj
      rw [Function.update_self] at htoken
      exact (Turn.mem_refused_after htoken).imp_left (h.refused j token)
    · rw [Function.update_of_ne hj] at htoken
      exact .inl (h.refused j token htoken)
  decided j hj hentitled := by
    have hstep := Step.answered (l := turns) (w := ClientState.world server) hi hw hlock
    by_cases hji : j = i
    · subst hji
      rw [Function.update_self] at hentitled
      rcases Turn.stage_after_eq_entitled hentitled with ⟨hbefore, hset, hunlock⟩ | hlook
      · obtain ⟨hstale, hdecided⟩ := h.decided j (h.holder_eq hi hbefore) hbefore
        refine ⟨(hstale.answers hw hset).append _, hdecided.step hstep ?_⟩
        cases c with
        | setAuth a => exact absurd rfl (hset a)
        | unlock => exact absurd rfl hunlock
        | _ => trivial
      · -- The caller decides now.
        have hstale : world.Stale (es ++ [.answered j ⟨c, r⟩]) := by
          refine (ClientState.stale_of_look hw ?_).append _
          exact hlook.imp_right fun ⟨a, hauth, ha⟩ => ⟨a, hauth, fun b hb => h.refused j _ (ha b hb)⟩
        have hlooked : Looked j (es ++ [.answered j ⟨c, r⟩]) := by
          refine ⟨es, _, rfl, ?_⟩
          rcases hlook with hlive | ⟨a, hauth, -⟩
          · exact .inl (congrArg Sigma.fst hlive)
          · exact .inr (congrArg Sigma.fst hauth)
        exact ⟨hstale, _, [], _, (List.append_nil _).symm, .tail hs hstep, .refl _, hj, hlooked, hstale,
          fun _ he => absurd he List.not_mem_nil⟩
    · -- Somebody else got an answer, and could replace the session only with the lock of this caller.
      rw [Function.update_of_ne hji] at hentitled
      have hholder : t.holder = some j := (holderAfter_of_ne hji hlock).mp hj
      obtain ⟨hstale, hdecided⟩ := h.decided j hholder hentitled
      have hset : ∀ a, c ≠ .setAuth a := by
        rintro a rfl
        exact hji (h.eq_of_setAuth hi hholder)
      refine ⟨(hstale.answers hw hset).append _, hdecided.step hstep ?_⟩
      cases c with
      | setAuth a => exact absurd rfl (hset a)
      | unlock => exact Ne.symm hji
      | _ => trivial

theorem of_steps {t : Interleaving interface α (ClientState.world server).State}
    (h₀ : Orderly server s [] s pos)
    (h : Steps turns (ClientState.world server) s es t) : ∃ pos, Orderly server s es t pos := by
  induction h with
  | refl => exact ⟨pos, h₀⟩
  | tail hs hstep ih =>
    obtain ⟨pos, hpos⟩ := ih
    cases hstep with
    | answered hi hw hlock => exact ⟨_, hpos.answered hs hi hw hlock⟩
    | abandoned hi => exact ⟨_, hpos.abandoned hi⟩

theorem start {world : ClientState σ} {ps : List (Protocol interface α)}
    (hps : ∀ p ∈ ps, Turn.Ends p {} .outside) :
    Orderly server (start world ps) [] (start world ps) fun _ => {} where
  tracks := tracks_start (fun i p hp => hps p (List.mem_of_getElem? hp)) fun hholds => hholds rfl
  refused := nofun
  decided _ _ hentitled := by cases hentitled

theorem stage_of_loggingIn (h : Orderly server s es t pos) (hi : LoggingIn t i) :
    t.holder = some i ∧ (pos i).stage = .entitled := by
  obtain ⟨q, next, hthread, hq⟩ := hi
  have hentitled : (pos i).stage = .entitled := h.tracks.allows hthread hq
  exact ⟨h.holder_eq hthread hentitled, hentitled⟩

end Orderly

/-- In every run, one caller at a time logs in, and only if it has decided so with the lock in its
hands. A session is replaced only if it cannot be used. -/
theorem orderly_logins {x : Client} {world : ClientState σ}
    {ps : List (Protocol Session.interface α)}
    (h : Steps turns (ClientState.world server)
      (start world (ps.map fun p => p.interpret x.answer)) es t) :
    (∀ i j, LoggingIn t i → LoggingIn t j → i = j) ∧
    (∀ i, LoggingIn t i → t.holder = some i ∧
      Decided server (start world (ps.map fun p => p.interpret x.answer)) es t i) ∧
    ∀ (i : Nat) a (next : Unit → Protocol interface α),
      t.threads[i]? = some (some (.call (.setAuth a) next)) → t.world.Stale es := by
  have hps : ∀ p ∈ ps.map fun p => p.interpret x.answer, Turn.Ends p {} .outside := by
    intro p hp
    obtain ⟨q, -, rfl⟩ := List.mem_map.mp hp
    exact Turn.ends_interpret rfl q
  obtain ⟨pos, hpos⟩ := (Orderly.start hps).of_steps h
  refine ⟨fun i j hi hj => ?_, fun i hi => ?_, fun i a next hi => ?_⟩
  · obtain ⟨hholder, -⟩ := hpos.stage_of_loggingIn hi
    rw [(hpos.stage_of_loggingIn hj).1] at hholder
    exact (Option.some.inj hholder).symm
  · obtain ⟨hholder, hentitled⟩ := hpos.stage_of_loggingIn hi
    exact ⟨hholder, (hpos.decided i hholder hentitled).2⟩
  · have hentitled : (pos i).stage = .entitled := hpos.tracks.allows hi
    exact (hpos.decided i (hpos.holder_eq hi hentitled) hentitled).1

end NodeAtlas.Http
