import NodeAtlas.Http.Trace

/-!
# What answers tell and change

A call is answered from the state that the client has at that moment, and changes only what it is for.
-/

namespace NodeAtlas.Http

variable {σ : Type} {server : Server σ} {s s' : ClientState σ}

/-! ## The session -/

theorem auth_of_session {a : Auth} {since : Nat} (h : s.session = some (a, since)) :
    s.auth = some a := by
  rw [ClientState.auth, h]
  rfl

theorem token_of_auth {a : Auth} (h : s.auth = some a) : s.token = some a.token := by
  rw [ClientState.token, h]
  rfl

theorem token_eq_of_session (h : s'.session = s.session) : s'.token = s.token := by
  rw [ClientState.token, ClientState.auth, h]
  rfl

theorem isLiveAt_of_none (h : s.session = none) (clock : Nat) : s.isLiveAt clock = false := by
  rw [ClientState.isLiveAt, h]
  rfl

/-- From now on, only its age tells whether a session is live. -/
theorem isLiveAt_iff {a : Auth} {since clock : Nat} (h : s.session = some (a, since))
    (hclock : s.clock ≤ clock) : s.isLiveAt clock = true ↔ clock - since ≤ s.lifetime := by
  have hsince : since ≤ clock := Nat.le_trans (s.since_le_clock _ h) hclock
  rw [ClientState.isLiveAt, h, Option.any_some, Bool.and_eq_true, decide_eq_true_iff,
    decide_eq_true_iff]
  exact and_iff_right hsince

theorem isLiveAt_eq_false_iff {a : Auth} {since clock : Nat} (h : s.session = some (a, since))
    (hclock : s.clock ≤ clock) : s.isLiveAt clock = false ↔ s.lifetime < clock - since := by
  rw [Bool.eq_false_iff, Ne, isLiveAt_iff h hclock, Nat.not_le]

theorem isSome_of_isLiveAt {clock : Nat} (h : s.isLiveAt clock = true) : s.session.isSome = true := by
  cases hsession : s.session with
  | none =>
    rw [isLiveAt_of_none hsession] at h
    cases h
  | some p => rfl

/-- A session that is not live now will not be so later. -/
theorem isLiveAt_eq_false (h : s.isLive = false) {clock : Nat} (hclock : s.clock ≤ clock) :
    s.isLiveAt clock = false := by
  cases hsession : s.session with
  | none => exact isLiveAt_of_none hsession clock
  | some p =>
    have haged : s.lifetime < s.clock - p.2 := (isLiveAt_eq_false_iff hsession (Nat.le_refl _)).mp h
    refine (isLiveAt_eq_false_iff hsession hclock).mpr ?_
    omega

/-! ## All calls -/

/-- Every call can be answered at once. -/
theorem exists_answer (server : Server σ) (s : ClientState σ) (c : Call) :
    ∃ r s', (ClientState.world server).answers s c r s' ∧ s'.clock = s.clock := by
  refine ⟨_, _, ⟨s.clock, Nat.le_refl _, rfl⟩, ?_⟩
  cases c <;> rfl

/-- A client that makes its calls in turn gets these answers. -/
theorem answers_handle (server : Server σ) (c : Call) (s : ClientState σ) :
    (ClientState.world server).answers s c (ClientState.handle server c s).1
      (ClientState.handle server c s).2 :=
  ⟨s.clock + 1, Nat.le_add_right _ _, rfl⟩

theorem clock_le_of_answers {c : Call} {r : Reply c}
    (hw : (ClientState.world server).answers s c r s') : s.clock ≤ s'.clock := by
  obtain ⟨clock, hclock, hanswer⟩ := hw
  cases c
  all_goals
    obtain ⟨-, rfl⟩ := Prod.mk.inj hanswer
    exact hclock

theorem lifetime_of_answers {c : Call} {r : Reply c}
    (hw : (ClientState.world server).answers s c r s') : s'.lifetime = s.lifetime := by
  obtain ⟨clock, _, hanswer⟩ := hw
  cases c
  all_goals
    obtain ⟨-, rfl⟩ := Prod.mk.inj hanswer
    rfl

theorem credentials_eq_of_answers {c : Call} {r : Reply c} (hc : ∀ d, c ≠ .setCredentials d)
    (hw : (ClientState.world server).answers s c r s') : s'.credentials = s.credentials := by
  obtain ⟨clock, _, hanswer⟩ := hw
  cases c with
  | setCredentials d => exact absurd rfl (hc d)
  | _ =>
    obtain ⟨-, rfl⟩ := Prod.mk.inj hanswer
    rfl

/-- Only a new session replaces a session. -/
theorem session_of_answers {c : Call} {r : Reply c} (hc : ∀ a, c ≠ .setAuth a)
    (hw : (ClientState.world server).answers s c r s') :
    s'.session = s.session ∨ s'.session = none := by
  obtain ⟨clock, _, hanswer⟩ := hw
  cases c with
  | setAuth a => exact absurd rfl (hc a)
  | takeAuth =>
    obtain ⟨-, rfl⟩ := Prod.mk.inj hanswer
    exact .inr rfl
  | _ =>
    obtain ⟨-, rfl⟩ := Prod.mk.inj hanswer
    exact .inl rfl

/-! ## Single calls -/

theorem isLive_of_answers {live : Bool} (hw : (ClientState.world server).answers s .isLive live s') :
    live = s'.isLive := by
  obtain ⟨clock, _, hanswer⟩ := hw
  obtain ⟨rfl, rfl⟩ := Prod.mk.inj hanswer
  rfl

theorem auth_of_answers {a : Option Auth} (hw : (ClientState.world server).answers s .auth a s') :
    a = s'.auth := by
  obtain ⟨clock, _, hanswer⟩ := hw
  obtain ⟨rfl, rfl⟩ := Prod.mk.inj hanswer
  rfl

theorem credentials_of_answers {c : Credentials}
    (hw : (ClientState.world server).answers s .credentials c s') : c = s'.credentials := by
  obtain ⟨clock, _, hanswer⟩ := hw
  obtain ⟨rfl, rfl⟩ := Prod.mk.inj hanswer
  rfl

theorem send_of_answers {q : Request} {r : Option Response}
    (hw : (ClientState.world server).answers s (.send q) r s') :
    r = (server q s.server).1 ∧ s'.server = (server q s.server).2 ∧ s'.session = s.session := by
  obtain ⟨clock, _, hanswer⟩ := hw
  obtain ⟨rfl, rfl⟩ := Prod.mk.inj hanswer
  exact ⟨rfl, rfl, rfl⟩

theorem setAuth_of_answers {a : Option Auth} {r : Unit}
    (hw : (ClientState.world server).answers s (.setAuth a) r s') :
    s'.session = a.map (fun a => (a, s'.clock)) ∧ s'.server = s.server := by
  obtain ⟨clock, _, hanswer⟩ := hw
  obtain ⟨-, rfl⟩ := Prod.mk.inj hanswer
  exact ⟨rfl, rfl⟩

end NodeAtlas.Http
