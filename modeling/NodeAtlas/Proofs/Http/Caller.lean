import NodeAtlas.Proofs.Http.Answers
import NodeAtlas.Proofs.Http.Places

/-!
# One of many callers

What a caller on its way to data can count on at its place, while other callers are on their way too. It
is so at the next place as well, whatever is answered, and it stays so while others log in.
-/

namespace NodeAtlas.Http

open NodeAtlas.Interleaving (Event)

variable {σ : Type} {server : Server σ} {accepts : σ → String → Prop}
  {es fs : List (Event interface)} {i : Nat} {s₀ s s' : ClientState σ} {g : Place}

/-- There is a session with another token than the former one. It has begun in time, and the server
accepts it. -/
def Renewed (accepts : σ → String → Prop) (s₀ s : ClientState σ) : Prop :=
  ∃ a since, s.session = some (a, since) ∧ some a.token ≠ s₀.token ∧
    accepts s.server a.token ∧ s₀.clock ≤ since

/-- What a caller at a place can count on. -/
def Fits (accepts : σ → String → Prop) (s₀ : ClientState σ) (es : List (Event interface))
    (s : ClientState σ) (i : Nat) : Place → Prop
  | .arriving | .checking | .comparing => True
  | .found | .ready => s.session.isSome = true
  | .outdated => s₀.token.isSome = true
  | .entitled | .armed => s.session = s₀.session ∧ logins es = 0
  | .granted a => s.session = s₀.session ∧ logins es = 1 ∧ some a.token ≠ s₀.token ∧
      accepts s.server a.token
  | .settled | .renewed => Renewed accepts s₀ s
  | .current token => Renewed accepts s₀ s ∧ s.token = some token
  | .served q r => Renewed accepts s₀ s ∧ q.authorization = s.token ∧ r.status ≠ 401 ∧
      .answered i ⟨.send q, some r⟩ ∈ es

theorem not_renewed (h : s.session = s₀.session) : ¬ Renewed accepts s₀ s := by
  rintro ⟨a, since, hsession, hother, -⟩
  rw [← token_eq_of_session h, token_of_auth (auth_of_session hsession)] at hother
  exact hother rfl

theorem Renewed.isLive (h : Renewed accepts s₀ s) (hlifetime : s.lifetime = s₀.lifetime)
    (htime : s.clock ≤ s₀.clock + s₀.lifetime) : s.isLive = true := by
  obtain ⟨a, since, hsession, -, -, hsince⟩ := h
  have hyoung : s.clock - since ≤ s.lifetime := by
    rw [hlifetime]
    omega
  exact (isLiveAt_iff hsession (Nat.le_refl _)).mpr hyoung

/-! ## Exchanges that leave the session alone -/

/-- The session stays, and no token is revoked. -/
structure Calm (accepts : σ → String → Prop) (s s' : ClientState σ) : Prop where
  session : s'.session = s.session
  accepts : ∀ token, accepts s.server token → accepts s'.server token

/-- The call is neither a login nor does it replace the session. -/
def Call.isCalm : Call → Bool
  | .isLive | .auth | .credentials | .lock | .unlock => true
  | .send q => !q.isPost
  | _ => false

theorem logins_append (es fs : List (Event interface)) :
    logins (es ++ fs) = logins es + logins fs := by
  simp [logins, List.filterMap_append]

theorem logins_singleton (i : Nat) (x : interface.Exchange) :
    logins [.answered i x] = if isLogin x then 1 else 0 := by
  unfold logins Event.exchange?
  cases h : isLogin x <;> simp [h]

theorem logins_of_isCalm {c : Call} {r : Reply c} (h : c.isCalm = true) :
    logins (es ++ [.answered i ⟨c, r⟩]) = logins es := by
  rw [logins_append, logins_singleton]
  cases c with
  | send q =>
    have hpost : q.isPost = false := by simpa [Call.isCalm] using h
    simp [isLogin, Request.isLogin, hpost]
  | _ => rfl

theorem calm_of_answers (hserver : Welcoming server s₀.credentials s₀.token accepts) {c : Call}
    {r : Reply c} (hc : c.isCalm = true) (hw : (ClientState.world server).answers s c r s') :
    Calm accepts s s' := by
  obtain ⟨clock, _, hanswer⟩ := hw
  cases c with
  | send q =>
    obtain ⟨-, rfl⟩ := Prod.mk.inj hanswer
    exact ⟨rfl, fun token => hserver.remembers q s.server token (by simpa [Call.isCalm] using hc)⟩
  | setAuth a => cases hc
  | takeAuth => cases hc
  | setCredentials c => cases hc
  | _ =>
    obtain ⟨-, rfl⟩ := Prod.mk.inj hanswer
    exact ⟨rfl, fun _ => id⟩

theorem Calm.renewed (h : Calm accepts s s') (hrenewed : Renewed accepts s₀ s) :
    Renewed accepts s₀ s' := by
  obtain ⟨a, since, hsession, hother, haccepts, hsince⟩ := hrenewed
  exact ⟨a, since, h.session.trans hsession, hother, h.accepts _ haccepts, hsince⟩

theorem Calm.fits (h : Calm accepts s s') (hlogins : logins (es ++ fs) = logins es) {g : Place}
    (hg : Fits accepts s₀ es s i g) : Fits accepts s₀ (es ++ fs) s' i g := by
  cases g with
  | arriving => trivial
  | checking => trivial
  | comparing => trivial
  | outdated => exact hg
  | found => exact (congrArg Option.isSome h.session).trans hg
  | ready => exact (congrArg Option.isSome h.session).trans hg
  | entitled => exact ⟨h.session.trans hg.1, hlogins.trans hg.2⟩
  | armed => exact ⟨h.session.trans hg.1, hlogins.trans hg.2⟩
  | granted a =>
    obtain ⟨hsession, hone, hother, haccepts⟩ := hg
    exact ⟨h.session.trans hsession, hlogins.trans hone, hother, h.accepts _ haccepts⟩
  | settled => exact h.renewed hg
  | renewed => exact h.renewed hg
  | current token => exact ⟨h.renewed hg.1, (token_eq_of_session h.session).trans hg.2⟩
  | served q r =>
    obtain ⟨hrenewed, htoken, hstatus, hmem⟩ := hg
    exact ⟨h.renewed hrenewed, htoken.trans (token_eq_of_session h.session).symm, hstatus, List.mem_append_left _ hmem⟩

/-- Callers without the lock do not mind when a session takes the place of the former one. -/
theorem fits_of_not_holds {g : Place} (hg : Fits accepts s₀ es s i g) (hholds : ¬ g.holds)
    (hsession : s.session = s₀.session) (hsome : s.session.isSome = true → s'.session.isSome = true)
    (fs : List (Event interface)) : Fits accepts s₀ fs s' i g := by
  have hnew : ¬ Renewed accepts s₀ s := not_renewed hsession
  cases g with
  | arriving => trivial
  | ready => exact hsome hg
  | outdated => exact hg
  | renewed => exact absurd hg hnew
  | current token => exact absurd hg.1 hnew
  | served q r => exact absurd hg.1 hnew
  | _ => exact absurd trivial hholds

/-! ## The way of one caller -/

/-- What every caller can count on: the session is the former one or a new one, and who has the lock
finds the former one only before the login. -/
structure Sure (accepts : σ → String → Prop) (s₀ : ClientState σ) (es : List (Event interface))
    (s : ClientState σ) (g : Place) : Prop where
  lifetime : s.lifetime = s₀.lifetime
  credentials : s.credentials = s₀.credentials
  clock : s₀.clock ≤ s.clock
  session : s.session = s₀.session ∨ Renewed accepts s₀ s
  before : g.holds → (∀ a, g ≠ .granted a) → s.session = s₀.session → logins es = 0

/-- A session that is read is the former one or the new one. -/
theorem auth_eq (h : s.session = s₀.session ∨ Renewed accepts s₀ s) :
    s.session = s₀.session ∧ s.token = s₀.token ∨
      Renewed accepts s₀ s ∧ ∃ a, s.auth = some a ∧ some a.token ≠ s₀.token := by
  rcases h with hsession | hrenewed
  · exact .inl ⟨hsession, token_eq_of_session hsession⟩
  · obtain ⟨a, since, hsession, hother, -⟩ := id hrenewed
    exact .inr ⟨hrenewed, a, auth_of_session hsession, hother⟩

theorem Sure.calm (h : Sure accepts s₀ es s g)
    (hserver : Welcoming server s₀.credentials s₀.token accepts) {c : Call} {r : Reply c}
    (hc : c.isCalm = true) (hw : (ClientState.world server).answers s c r s') :
    Sure accepts s₀ (es ++ [.answered i ⟨c, r⟩]) s' g where
  lifetime := (lifetime_of_answers hw).trans h.lifetime
  credentials := by
    refine (credentials_eq_of_answers ?_ hw).trans h.credentials
    rintro d rfl
    cases hc
  clock := h.clock.trans (clock_le_of_answers hw)
  session := h.session.imp (calm_of_answers hserver hc hw).session.trans
    (calm_of_answers hserver hc hw).renewed
  before hholds hgranted hsession := by
    rw [(calm_of_answers hserver hc hw).session] at hsession
    exact (logins_of_isCalm hc).trans (h.before hholds hgranted hsession)

/-- A caller that makes an allowed call comes to a place that fits. -/
theorem exists_leads (hserver : Welcoming server s₀.credentials s₀.token accepts)
    (hsure : Sure accepts s₀ es s g) (hg : Fits accepts s₀ es s i g) {c : Call} {r : Reply c}
    (hallowed : Place.Allows s₀.credentials s₀.token g c)
    (hw : (ClientState.world server).answers s c r s') (htime : s'.clock ≤ s₀.clock + s₀.lifetime) :
    ∃ g', Place.Leads s₀.credentials s₀.token g ⟨c, r⟩ g' ∧
      Fits accepts s₀ (es ++ [.answered i ⟨c, r⟩]) s' i g' := by
  have hcalm (hc : c.isCalm = true) := calm_of_answers hserver hc hw
  have hfits (hc : c.isCalm = true) : Fits accepts s₀ (es ++ [.answered i ⟨c, r⟩]) s' i g :=
    (hcalm hc).fits (logins_of_isCalm hc) hg
  have hsure' (hc : c.isCalm = true) : Sure accepts s₀ (es ++ [.answered i ⟨c, r⟩]) s' g :=
    hsure.calm hserver hc hw
  cases hallowed with
  | enter => exact ⟨_, .enter, trivial⟩
  | comeBack => exact ⟨_, .comeBack, trivial⟩
  | leave => exact ⟨_, .leave, hfits rfl⟩
  | release => exact ⟨_, .release, hfits rfl⟩
  | meet =>
    have hlive := isLive_of_answers hw
    cases r with
    | false => exact ⟨_, .miss, trivial⟩
    | true => exact ⟨_, .meet, isSome_of_isLiveAt hlive.symm⟩
  | find =>
    have hnow := hsure' rfl
    have hlive := isLive_of_answers hw
    cases r with
    | false =>
      -- A new session would have been found live, as its time is not over.
      rcases hnow.session with hformer | hrenewed
      · exact ⟨_, .lack, hformer, hnow.before trivial nofun hformer⟩
      · rw [hrenewed.isLive hnow.lifetime htime] at hlive
        cases hlive
    | true => exact ⟨_, .find, isSome_of_isLiveAt hlive.symm⟩
  | read =>
    have hsome : s'.session.isSome = true := hfits rfl
    obtain ⟨p, hp⟩ := Option.isSome_iff_exists.mp hsome
    have hauth : s'.auth = some p.1 := auth_of_session hp
    obtain rfl := auth_of_answers hw
    rcases auth_eq (hsure' rfl).session with ⟨-, htoken⟩ | ⟨hrenewed, a, ha, hother⟩
    · have hformer : some p.1.token = s₀.token := (token_of_auth hauth).symm.trans htoken
      rw [hauth]
      exact ⟨_, .readFormer hformer, by rw [Fits, ← hformer]; rfl⟩
    · rw [ha]
      exact ⟨_, .readOther hother, hrenewed, token_of_auth ha⟩
  | compare =>
    have hnow := hsure' rfl
    obtain rfl := auth_of_answers hw
    rcases auth_eq hnow.session with ⟨hformer, htoken⟩ | ⟨hrenewed, a, ha, hother⟩
    · exact ⟨_, .same htoken, hformer, hnow.before trivial nofun hformer⟩
    · rw [ha]
      exact ⟨_, .other hother, hrenewed⟩
  | reread =>
    have hrenewed : Renewed accepts s₀ s' := hfits rfl
    obtain rfl := auth_of_answers hw
    obtain ⟨a, since, hsession, -⟩ := id hrenewed
    have hauth := auth_of_session hsession
    rw [hauth]
    exact ⟨_, .read, hrenewed, token_of_auth hauth⟩
  | prepare =>
    have hread : r = s₀.credentials :=
      (credentials_of_answers hw).trans (hsure' rfl).credentials
    have harmed : Fits accepts s₀ (es ++ [.answered i ⟨.credentials, r⟩]) s' i .armed := hfits rfl
    subst hread
    exact ⟨_, .prepare, harmed⟩
  | tryFormer hasks =>
    rename_i q
    obtain ⟨hget, htoken⟩ := hasks
    obtain ⟨token, hformer⟩ := Option.isSome_iff_exists.mp hg
    obtain ⟨response, hresponse, hstatus⟩ :=
      hserver.refuses q s.server token hget (htoken.trans hformer) hformer
    obtain rfl : r = some response := (send_of_answers hw).1.trans hresponse
    exact ⟨_, .refused hstatus, hg⟩
  | tryCurrent hasks =>
    rename_i q token
    obtain ⟨hget, htoken⟩ := hasks
    have hcalm := hcalm (by simp [Call.isCalm, hget])
    obtain ⟨hrenewed, hcurrent⟩ := hg
    obtain ⟨a, since, hsession, -, haccepts, -⟩ := id hrenewed
    rw [token_of_auth (auth_of_session hsession)] at hcurrent
    obtain rfl := Option.some.inj hcurrent
    obtain ⟨response, hresponse, hstatus⟩ := hserver.answers q s.server a.token hget htoken haccepts
    obtain rfl : r = some response := (send_of_answers hw).1.trans hresponse
    refine ⟨_, .serve hstatus, hcalm.renewed hrenewed, ?_, hstatus, by simp⟩
    rw [htoken, token_eq_of_session hcalm.session, token_of_auth (auth_of_session hsession)]
  | login url =>
    obtain ⟨hsession, hnone⟩ := hg
    obtain ⟨response, a, hresponse, hjudge, hother, haccepts⟩ := hserver.grants url s.server
    obtain ⟨hreply, hserver', hsession'⟩ := send_of_answers hw
    obtain rfl : r = some response := hreply.trans hresponse
    refine ⟨_, .login hjudge, hsession'.trans hsession, ?_, hother, hserver' ▸ haccepts⟩
    rw [logins_append, hnone, logins_singleton]
    rfl
  | renew a =>
    obtain ⟨-, -, hother, haccepts⟩ := hg
    obtain ⟨hsession, hserver'⟩ := setAuth_of_answers hw
    refine ⟨_, .renew, a, s'.clock, hsession, hother, hserver' ▸ haccepts, ?_⟩
    exact hsure.clock.trans (clock_le_of_answers hw)

end NodeAtlas.Http
