import Mathlib.Tactic.SplitIfs
import NodeAtlas.Http.History
import NodeAtlas.Proofs.Http.Answers

/-!
# The course of a request

What a client does when it is left alone with a request for data: a login if there is no live session,
the request, and if the session is refused one more login and the request again. The session at the
end is that of the last login.
-/

namespace NodeAtlas.Http

open Protocol NodeAtlas.Json

variable {σ α : Type} {server : Server σ} {x : Client} {s s' : ClientState σ}
  {es fs : List interface.Exchange} {as bs : List Act}

/-! ## Exchanges that are told -/

theorem Tells.append (h : Tells x es as) (h' : Tells x fs bs) : Tells x (es ++ fs) (as ++ bs) := by
  induction h with
  | nil => exact h'
  | aside hy _ ih => exact .aside hy ih
  | @login c r xs es as hlogin _ ih =>
    have htells := Tells.login hlogin ih
    simpa using htells
  | get hq _ ih => exact .get hq ih
  | @logout r xs es as hlogout _ ih =>
    rw [List.append_assoc]
    exact .logout hlogout ih

theorem tells_aside {y : interface.Exchange} (hy : y.1.isAside = true) : Tells x [y] [] :=
  .aside hy .nil

theorem tells_get {q : Request} (hq : q.isPost = false) (r : Option Response) :
    Tells x [⟨.send q, r⟩] [.get q r] := .get hq .nil

/-- What a login sends before its result is known. -/
theorem sends_of_login {c : Credentials} {r : Result Auth} (h : (x.login c).Yields es r) :
    es = [] ∨ ∃ url response, es = [⟨.send (loginRequest url c), response⟩] := by
  unfold Client.login at h
  split at h
  · exact .inl (yields_pure_iff.mp h).1
  · exact .inl (yields_pure_iff.mp h).1
  · rename_i url _ _
    obtain ⟨response, fs, hrest, rfl⟩ := yields_call_iff.mp h
    refine .inr ⟨url, response, ?_⟩
    cases response with
    | none => rw [(yields_pure_iff.mp hrest).1]
    | some r => rw [(yields_pure_iff.mp hrest).1]

theorem user_of_grant {c : Credentials} {body : String} {a : Auth} (h : grant c body = .ok a) :
    a.user = c.username := by
  unfold grant at h
  split at h
  · cases h
  · split at h
    · cases h
    · cases h
      rfl

theorem user_of_judgeLogin {c : Credentials} {r : Response} {a : Auth}
    (h : judgeLogin c r = .ok a) : a.user = c.username := by
  unfold judgeLogin at h
  by_cases hstatus : r.status = 200
  · rw [if_pos hstatus] at h
    exact user_of_grant h
  · rw [if_neg hstatus] at h
    split_ifs at h

/-- A login that succeeds names the user whose credentials were sent. -/
theorem user_of_login {c : Credentials} {a : Auth} (h : (x.login c).Yields es (.ok a)) :
    a.user = c.username := by
  unfold Client.login at h
  split at h
  · cases (yields_pure_iff.mp h).2
  · cases (yields_pure_iff.mp h).2
  · obtain ⟨response, fs, hrest, -⟩ := yields_call_iff.mp h
    cases response with
    | none => cases (yields_pure_iff.mp hrest).2
    | some r => exact user_of_judgeLogin (yields_pure_iff.mp hrest).2.symm

theorem Tells.user (h : Tells x es as) {c : Credentials} {a : Auth} (ha : .login c (.ok a) ∈ as) :
    a.user = c.username := by
  induction h with
  | nil => cases ha
  | aside _ _ ih => exact ih ha
  | login hlogin _ ih =>
    rcases List.mem_cons.mp ha with heq | ha
    · cases heq
      exact user_of_login hlogin
    · exact ih ha
  | get _ _ ih =>
    rcases List.mem_cons.mp ha with heq | ha
    · cases heq
    · exact ih ha
  | logout _ _ ih =>
    rcases List.mem_cons.mp ha with heq | ha
    · cases heq
    · exact ih ha

/-! ## Single calls of a client by itself -/

theorem solo_ask_iff {c : Call} {f : Reply c → Protocol interface α} {a : α} :
    (ask c >>= f).Solo (ClientState.world server) s es a s' ↔
      ∃ r fs t, (ClientState.world server).answers s c r t ∧
        (f r).Solo (ClientState.world server) t fs a s' ∧ es = ⟨c, r⟩ :: fs := by
  unfold ask
  exact solo_call_iff

theorem solo_currentToken_iff {f : Option String → Protocol interface α} {a : α} :
    (currentToken >>= f).Solo (ClientState.world server) s es a s' ↔
      ∃ b : Option Auth, ∃ fs t, (ClientState.world server).answers s .auth b t ∧
        (f (b.map (·.token))).Solo (ClientState.world server) t fs a s' ∧ es = ⟨.auth, b⟩ :: fs := by
  rw [currentToken, LawfulMonad.bind_assoc]
  exact solo_ask_iff

theorem solo_unlock_iff {r a : α} :
    (do ask .unlock; return r : Protocol interface α).Solo (ClientState.world server) s es a s' ↔
      (ClientState.world server).answers s .unlock () s' ∧ es = [⟨.unlock, ()⟩] ∧ a = r := by
  rw [solo_ask_iff]
  constructor
  · rintro ⟨_, fs, t, hw, hret, rfl⟩
    obtain ⟨rfl, rfl, rfl⟩ := solo_pure_iff.mp hret
    exact ⟨hw, rfl, rfl⟩
  · rintro ⟨hw, rfl, rfl⟩
    exact ⟨(), [], s', hw, solo_pure_iff.mpr ⟨rfl, rfl, rfl⟩, rfl⟩

/-- The client holds the same session and the same credentials as before, and no time has been lost. -/
structure Steady (s s' : ClientState σ) : Prop where
  session : s'.session = s.session
  credentials : s'.credentials = s.credentials
  lifetime : s'.lifetime = s.lifetime
  clock : s.clock ≤ s'.clock

namespace Steady

theorem refl (s : ClientState σ) : Steady s s := ⟨rfl, rfl, rfl, Nat.le_refl _⟩

theorem trans {t : ClientState σ} (h : Steady s t) (h' : Steady t s') : Steady s s' :=
  ⟨h'.session.trans h.session, h'.credentials.trans h.credentials, h'.lifetime.trans h.lifetime,
    Nat.le_trans h.clock h'.clock⟩

theorem auth_eq (h : Steady s s') : s'.auth = s.auth := by
  rw [ClientState.auth, h.session, ClientState.auth]

theorem isLiveAt_eq (h : Steady s s') (clock : Nat) : s'.isLiveAt clock = s.isLiveAt clock := by
  rw [ClientState.isLiveAt, h.session, h.lifetime, ClientState.isLiveAt]

theorem isLive_eq_false (h : Steady s s') (hlive : s.isLive = false) : s'.isLive = false :=
  (h.isLiveAt_eq s'.clock).trans (isLiveAt_eq_false hlive h.clock)

end Steady

/-- The calls that leave session and credentials as they are. -/
def Call.isSteady : Call → Bool
  | .send _ | .auth | .isLive | .credentials | .lock | .unlock => true
  | _ => false

theorem steady_of_answers {c : Call} {r : Reply c} (hc : c.isSteady = true)
    (hw : (ClientState.world server).answers s c r s') : Steady s s' := by
  obtain ⟨clock, hclock, hanswer⟩ := hw
  cases c with
  | setAuth a => cases hc
  | takeAuth => cases hc
  | setCredentials d => cases hc
  | _ =>
    obtain ⟨-, rfl⟩ := Prod.mk.inj hanswer
    exact ⟨rfl, rfl, rfl, hclock⟩

theorem steady_of_admits {s s' : (ClientState.world server).State}
    (h : (ClientState.world server).Admits s es s') (hes : ∀ y ∈ es, y.1.isSteady = true) :
    Steady s s' := by
  induction h with
  | nil s => exact .refl s
  | cons hw _ ih =>
    have hfirst := steady_of_answers (hes _ List.mem_cons_self) hw
    exact hfirst.trans (ih fun y hy => hes y (List.mem_cons_of_mem _ hy))

/-- The answer whether there is a live session says which session that is. -/
theorem liveAt_of_answers {live : Bool}
    (hw : (ClientState.world server).answers s .isLive live s') :
    s.liveAt s'.clock = if live then s.auth else none := by
  have hsteady := steady_of_answers rfl hw
  have hthen : s.isLiveAt s'.clock = live := by
    rw [isLive_of_answers hw, ClientState.isLive, hsteady.isLiveAt_eq]
  rw [ClientState.liveAt, hthen]

theorem liveAt_eq_none (hlive : s.isLive = false) {clock : Nat} (hclock : s.clock ≤ clock) :
    s.liveAt clock = none := by
  rw [ClientState.liveAt, isLiveAt_eq_false hlive hclock]
  rfl

theorem auth_eq_of_setAuth {a : Option Auth}
    (hw : (ClientState.world server).answers s (.setAuth a) () s') :
    s'.auth = a ∧ s'.credentials = s.credentials ∧ s'.lifetime = s.lifetime ∧ s.clock ≤ s'.clock := by
  have hcredentials := credentials_eq_of_answers (by simp) hw
  have hlifetime := lifetime_of_answers hw
  have hclock := clock_le_of_answers hw
  refine ⟨?_, hcredentials, hlifetime, hclock⟩
  rw [ClientState.auth, (setAuth_of_answers hw).1]
  cases a <;> rfl

/-! ## Logins -/

/-- What a client is left with after acts that may hold a login. -/
structure Left (s s' : ClientState σ) (a : Option Auth) : Prop where
  auth : s'.auth = a
  credentials : s'.credentials = s.credentials
  clock : s.clock ≤ s'.clock

theorem Left.of_steady {t : ClientState σ} {a : Option Auth} (h : Left s t a) (h' : Steady t s') :
    Left s s' a :=
  ⟨h'.auth_eq.trans h.auth, h'.credentials.trans h.credentials, Nat.le_trans h.clock h'.clock⟩

theorem Steady.left {t : ClientState σ} {a : Option Auth} (h : Steady s t) (h' : Left t s' a) :
    Left s s' a :=
  ⟨h'.auth, h'.credentials.trans h.credentials, Nat.le_trans h.clock h'.clock⟩

theorem tells_of_refresh {r : Result Unit}
    (h : x.refresh.Solo (ClientState.world server) s es r s') :
    ∃ l : Result Auth, Tells x es [.login s.credentials l] ∧ r = l.map (fun _ => ()) ∧
      Left s s' l.toOption := by
  unfold Client.refresh at h
  obtain ⟨c, fs, t, hread, h₁, rfl⟩ := solo_ask_iff.mp h
  obtain ⟨xs, l, u, gs, hlogin, h₂, rfl⟩ := solo_bind_iff.mp h₁
  have hsteady := steady_of_answers rfl hread
  have hc : c = s.credentials := (credentials_of_answers hread).trans hsteady.credentials
  have hsent : Steady t u := by
    refine steady_of_admits hlogin.admits fun y hy => ?_
    rcases sends_of_login hlogin.yields with rfl | ⟨url, response, rfl⟩
    · cases hy
    · rw [List.mem_singleton.mp hy]
      rfl
  -- Either way the result takes the place of the session.
  have hset : ∃ r', (ClientState.world server).answers u (.setAuth l.toOption) r' s' ∧
      gs = [⟨.setAuth l.toOption, r'⟩] ∧ r = l.map (fun _ => ()) := by
    cases l with
    | ok a =>
      obtain ⟨r', hs, v, hset, hret, rfl⟩ := solo_ask_iff.mp h₂
      obtain ⟨rfl, rfl, rfl⟩ := solo_pure_iff.mp hret
      exact ⟨r', hset, rfl, rfl⟩
    | error e =>
      obtain ⟨r', hs, v, hset, hret, rfl⟩ := solo_ask_iff.mp h₂
      obtain ⟨rfl, rfl, rfl⟩ := solo_pure_iff.mp hret
      exact ⟨r', hset, rfl, rfl⟩
  obtain ⟨r', hset, rfl, hr⟩ := hset
  obtain ⟨hauth, hcredentials, -, hclock⟩ := auth_eq_of_setAuth hset
  refine ⟨l, hc ▸ .login hlogin.yields .nil, hr, hauth, ?_, ?_⟩
  · rw [hcredentials, hsent.credentials, hsteady.credentials]
  · exact Nat.le_trans (Nat.le_trans hsteady.clock hsent.clock) hclock

/-- Without a live session the client logs in, and otherwise it does nothing. -/
theorem opening_of_ensure {r : Result Unit}
    (h : x.ensure.Solo (ClientState.world server) s es r s') :
    ∃ clock as ra, s.clock ≤ clock ∧ Tells x es as ∧
      Opening s.credentials (s.liveAt clock) as ra ∧ r = ra.map (fun _ => ()) ∧
      Left s s' ra.toOption := by
  unfold Client.ensure at h
  obtain ⟨live, fs, t, hlook, h₁, rfl⟩ := solo_ask_iff.mp h
  have hsteady := steady_of_answers rfl hlook
  have hlive := isLive_of_answers hlook
  refine ⟨t.clock, ?_⟩
  rw [liveAt_of_answers hlook]
  cases live with
  | true =>
    obtain ⟨rfl, rfl, rfl⟩ := solo_pure_iff.mp h₁
    obtain ⟨p, hp⟩ := Option.isSome_iff_exists.mp (isSome_of_isLiveAt hlive.symm)
    have hauth := auth_of_session hp
    rw [hsteady.auth_eq] at hauth
    rw [if_pos rfl, hauth]
    exact ⟨[], .ok p.1, hsteady.clock, tells_aside rfl, .live p.1, rfl, hsteady.auth_eq.trans hauth,
      hsteady.credentials, hsteady.clock⟩
  | false =>
    simp only [Bool.false_eq_true, if_false] at h₁ ⊢
    obtain ⟨_, gs, u, henter, h₂, rfl⟩ := solo_ask_iff.mp h₁
    obtain ⟨live, gs, v, hagain, h₃, rfl⟩ := solo_ask_iff.mp h₂
    have hsteady' := (steady_of_answers rfl henter).trans (steady_of_answers rfl hagain)
    obtain rfl : live = false :=
      (isLive_of_answers hagain).trans (hsteady'.isLive_eq_false hlive.symm)
    simp only [Bool.false_eq_true, if_false] at h₃
    obtain ⟨xs, r', y, ys, hrefresh, h₄, rfl⟩ := solo_bind_iff.mp h₃
    obtain ⟨hunlock, rfl, rfl⟩ := solo_unlock_iff.mp h₄
    obtain ⟨l, htells, rfl, hleft⟩ := tells_of_refresh hrefresh
    have hcredentials := (hsteady.trans hsteady').credentials
    rw [hcredentials] at htells
    refine ⟨_, l, hsteady.clock, ?_, .login l, rfl, ?_⟩
    · exact .aside rfl (.aside rfl (.aside rfl (htells.append (tells_aside rfl))))
    · exact (hsteady.trans hsteady').left (hleft.of_steady (steady_of_answers rfl hunlock))

/-- A client whose session was refused logs in again, as nobody else can have done it. -/
theorem tells_of_relogin {r : Result Unit}
    (h : (x.relogin s.token).Solo (ClientState.world server) s es r s') :
    ∃ l : Result Auth, Tells x es [.login s.credentials l] ∧ r = l.map (fun _ => ()) ∧
      Left s s' l.toOption := by
  unfold Client.relogin at h
  obtain ⟨_, fs, t, henter, h₁, rfl⟩ := solo_ask_iff.mp h
  obtain ⟨b, fs, u, hread, h₂, rfl⟩ := solo_currentToken_iff.mp h₁
  have hsteady := (steady_of_answers rfl henter).trans (steady_of_answers rfl hread)
  have hsame : b.map (·.token) = s.token := by
    rw [auth_of_answers hread, hsteady.auth_eq, ClientState.token]
  rw [if_neg fun hother => hother.2 hsame] at h₂
  obtain ⟨xs, r', y, ys, hrefresh, h₃, rfl⟩ := solo_bind_iff.mp h₂
  obtain ⟨hunlock, rfl, rfl⟩ := solo_unlock_iff.mp h₃
  obtain ⟨l, htells, rfl, hleft⟩ := tells_of_refresh hrefresh
  rw [hsteady.credentials] at htells
  refine ⟨l, ?_, rfl, ?_⟩
  · exact .aside rfl (.aside rfl (htells.append (tells_aside rfl)))
  · exact hsteady.left (hleft.of_steady (steady_of_answers rfl hunlock))

/-! ## Requests -/

theorem solo_get {url : Net.Url} {query : List (String × String)} {a : Auth} {r : Option Response}
    (h : (get url query (some a.token)).Solo (ClientState.world server) s es r s') :
    Tells x es [.get (inquiry url query a) r] ∧ Steady s s' := by
  unfold get ask at h
  obtain ⟨r', fs, t, hsend, hret, rfl⟩ := solo_call_iff.mp h
  obtain ⟨rfl, rfl, rfl⟩ := solo_ret_iff.mp hret
  exact ⟨tells_get rfl r, steady_of_answers rfl hsend⟩

theorem course_of_data {read : Json → Option α} {path : String} {query : List (String × String)}
    {v : Result (Option α)}
    (h : (x.data read path query).Solo (ClientState.world server) s es v s') :
    ∃ clock as, s.clock ≤ clock ∧ Tells x es as ∧
      Course x s.credentials read path query (s.liveAt clock) as v s'.auth ∧
      s'.credentials = s.credentials := by
  unfold Client.data at h
  obtain ⟨fs, r, t, gs, hensure, h₁, rfl⟩ := solo_bind_iff.mp h
  obtain ⟨clock, as, ra, hclock, htells, hopening, rfl, hleft⟩ := opening_of_ensure hensure
  refine ⟨clock, ?_⟩
  cases ra with
  | error e =>
    obtain ⟨rfl, rfl, rfl⟩ := solo_pure_iff.mp h₁
    rw [List.append_nil, hleft.auth]
    exact ⟨as, hclock, htells, .closed hopening, hleft.credentials⟩
  | ok a =>
    simp only [Except.map] at h₁
    cases hurl : x.dataUrl path with
    | error e =>
      simp only [hurl] at h₁
      obtain ⟨rfl, rfl, rfl⟩ := solo_pure_iff.mp h₁
      rw [List.append_nil, hleft.auth]
      exact ⟨as, hclock, htells, .astray hopening hurl, hleft.credentials⟩
    | ok url =>
      simp only [hurl] at h₁
      obtain ⟨b, gs, u, hread, h₂, rfl⟩ := solo_currentToken_iff.mp h₁
      have hleft := hleft.of_steady (steady_of_answers rfl hread)
      obtain rfl : b = some a := (auth_of_answers hread).trans hleft.auth
      obtain ⟨xs, r, y, ys, hget, h₃, rfl⟩ := solo_bind_iff.mp h₂
      obtain ⟨htellsGet, hsteady⟩ := solo_get (x := x) hget
      have hleft := hleft.of_steady hsteady
      have htells := htells.append (.aside (y := ⟨.auth, some a⟩) rfl htellsGet)
      cases hr : isRefusal r with
      | false =>
        rw [if_neg (by rw [← isRefusal, hr]; exact Bool.false_ne_true)] at h₃
        obtain ⟨rfl, rfl, rfl⟩ := solo_pure_iff.mp h₃
        rw [List.append_nil, hleft.auth]
        exact ⟨_, hclock, htells, .served hopening hurl hr, hleft.credentials⟩
      | true =>
        rw [if_pos (by rw [← isRefusal, hr])] at h₃
        obtain ⟨zs, r', z, ws, hrelogin, h₄, rfl⟩ := solo_bind_iff.mp h₃
        have htoken : y.token = (some a).map (·.token) := by
          rw [ClientState.token, hleft.auth]
          rfl
        rw [← htoken] at hrelogin
        obtain ⟨l, htellsLogin, rfl, hleft'⟩ := tells_of_relogin hrelogin
        rw [hleft.credentials] at htellsLogin
        cases l with
        | error e =>
          obtain ⟨rfl, rfl, rfl⟩ := solo_pure_iff.mp h₄
          have htells := htells.append htellsLogin
          rw [hleft'.auth]
          refine ⟨_, hclock, ?_, .lost hopening hurl hr,
            hleft'.credentials.trans hleft.credentials⟩
          simpa using htells
        | ok b =>
          simp only [Except.map] at h₄
          obtain ⟨b', ws, z', hread', h₅, rfl⟩ := solo_currentToken_iff.mp h₄
          have hleft' := hleft'.of_steady (steady_of_answers rfl hread')
          obtain rfl : b' = some b := (auth_of_answers hread').trans hleft'.auth
          obtain ⟨ws, r', z'', vs, hget', h₆, rfl⟩ := solo_bind_iff.mp h₅
          obtain ⟨rfl, rfl, rfl⟩ := solo_pure_iff.mp h₆
          obtain ⟨htellsGet', hsteady'⟩ := solo_get (x := x) hget'
          have hleft' := hleft'.of_steady hsteady'
          have htells := (htells.append htellsLogin).append
            (.aside (y := ⟨.auth, some b⟩) rfl htellsGet')
          rw [hleft'.auth]
          refine ⟨_, hclock, ?_, .renewed hopening hurl hr r',
            hleft'.credentials.trans hleft.credentials⟩
          simpa using htells

end NodeAtlas.Http
