import NodeAtlas.Proofs.Http.Account

/-!
# Rejected sessions

What is left of a session when a call for data reports that the server has rejected it. There are two
ways to such a report, and they do not leave the same behind: a login that fails ends the session, while
a new session that is refused at once is kept.
-/

namespace NodeAtlas.Http

open Protocol NodeAtlas.Json

variable {σ α : Type} {server : Server σ} {x : Client} {s s' : ClientState σ}
  {es : List interface.Exchange} {as bs : List Act} {d : String}

theorem Barred.append (h : Barred bs) : Barred (as ++ bs) := by
  obtain ⟨before, c, e, rfl⟩ := h
  exact ⟨as ++ before, c, e, (List.append_assoc ..).symm⟩

theorem Spurned.append {a : Auth} (h : Spurned bs a) : Spurned (as ++ bs) a := by
  obtain ⟨before, c, q, r, rfl, hr⟩ := h
  exact ⟨as ++ before, c, q, r, (List.append_assoc ..).symm, hr⟩

/-- What is left after a rejection, as the acts before it tell. -/
def Leaves (as : List Act) (auth : Option Auth) : Prop :=
  Barred as ∧ auth = none ∨ ∃ a, Spurned as a ∧ auth = some a

theorem Leaves.append {auth : Option Auth} (h : Leaves bs auth) : Leaves (as ++ bs) auth := by
  rcases h with ⟨hbarred, hnone⟩ | ⟨a, hspurned, hsome⟩
  · exact .inl ⟨hbarred.append, hnone⟩
  · exact .inr ⟨a, hspurned.append, hsome⟩

/-! ## Where rejections come from -/

theorem dataUrl_ne_invalidCredentials {path : String} :
    x.dataUrl path ≠ .error (.invalidCredentials d) := by
  intro h
  unfold Client.dataUrl Client.url at h
  split at h
  · rename_i hurl
    split at hurl
    · cases hurl
    · cases h
      cases hurl
  · split at h <;> cases h

theorem Opening.barred {c : Credentials} {live : Option Auth} {e : Error}
    (h : Opening c live as (.error e)) : Barred as := by
  cases h with
  | login => exact ⟨[], c, e, rfl⟩

theorem Course.leaves {c : Credentials} {read : Json → Option α} {path : String}
    {query : List (String × String)} {live auth : Option Auth}
    (h : Course x c read path query live as (.error (.invalidCredentials d)) auth) :
    Leaves as auth := by
  generalize hv : (Except.error (.invalidCredentials d) : Result (Option α)) = v at h
  cases h with
  | closed h => exact .inl ⟨h.barred, rfl⟩
  | astray _ hurl =>
    cases hv
    exact absurd hurl dataUrl_ne_invalidCredentials
  | @served as a url _ _ r hr =>
    have hjudged := judged_judgeData x.server read r
    rw [← hv] at hjudged
    rw [hjudged.isRefusal_of_refused] at hr
    cases hr
  | @lost as a url e _ _ r _ =>
    exact .inl ⟨⟨as ++ [.get (inquiry url query a) r], c, e, by simp⟩, rfl⟩
  | @renewed as a b url _ _ r _ r' =>
    have hjudged := judged_judgeData x.server read r'
    rw [← hv] at hjudged
    refine .inr ⟨b, ⟨as ++ [.get (inquiry url query a) r], c, inquiry url query b, r', ?_, ?_⟩, rfl⟩
    · simp
    · exact hjudged.isRefusal_of_refused

theorem Courses.leaves (h : Courses x s as (some (.invalidCredentials d)) s') : Leaves as s'.auth := by
  generalize hv : some (Error.invalidCredentials d) = e at h
  induction h with
  | done s => cases hv
  | failed _ h =>
    obtain rfl := Option.some.inj hv
    exact h.leaves
  | step _ _ _ _ ih => exact (ih hv).append

/-! ## What follows -/

theorem foldl_hold_none (h : ∀ c l, .login c l ∉ as) : as.foldl Act.hold none = none := by
  induction as with
  | nil => rfl
  | cons act as ih =>
    have hrest := ih fun c l hmem => h c l (List.mem_cons_of_mem _ hmem)
    cases act with
    | login c l => exact absurd List.mem_cons_self (h c l)
    | get q r => exact hrest
    | logout r => exact hrest

/-- A client without session logs in when it is told to connect. -/
theorem login_of_connect {r : Result Unit} (hnone : s.auth = none)
    (h : (x.answer .connect).Solo (ClientState.world server) s es r s') :
    ∃ l : Result Auth, Tells x es [.login s.credentials l] ∧ r = l.map fun _ => () := by
  obtain ⟨clock, as, ra, -, htells, hopening, hr, -⟩ := opening_of_ensure h
  have hclosed : s.liveAt clock = none := by
    rcases liveAt_eq s clock with h | h
    · exact h
    · rw [h, hnone]
  rw [hclosed] at hopening
  cases hopening with
  | login => exact ⟨ra, htells, hr⟩

/-- A client with a live session does nothing when it is told to connect. -/
theorem idle_of_connect {r : Result Unit}
    (h : (x.answer .connect).Solo (ClientState.world server) s es r s') :
    ∃ clock, s.clock ≤ clock ∧
      (s.isLiveAt clock = true → r = .ok () ∧ Tells x es []) := by
  obtain ⟨clock, as, ra, hclock, htells, hopening, hr, -⟩ := opening_of_ensure h
  refine ⟨clock, hclock, fun hlive => ?_⟩
  rw [ClientState.liveAt, if_pos hlive] at hopening
  obtain ⟨p, hp⟩ := Option.isSome_iff_exists.mp (isSome_of_isLiveAt hlive)
  have hauth : s.auth = some p.1 := auth_of_session hp
  rw [hauth] at hopening
  cases hopening with
  | live => exact ⟨hr, htells⟩

/-- When a call for data reports that the server has rejected the session or its credentials, then
either the last login has failed, or a session that had just begun was refused. In the first case the
client has no session. It stays so until the next login, and the next connect attempts one. In the
second case the new session is kept, and a connect that finds it live is answered without a login. -/
theorem session_after_rejection {c : Session.Call} {r : Session.Reply c}
    (hc : c.wantsData = true) (h : (x.answer c).Solo (ClientState.world server) s es r s')
    (hr : Session.error? c r = some (.invalidCredentials d)) :
    ∃ as, Tells x es as ∧
      (Barred as ∧ s'.auth = none ∧
          (∀ ds t, History x server s' ds t →
            ∃ bs, Tells x (ds.flatMap (·.exchanges)) bs ∧ ((∀ c l, .login c l ∉ bs) →
              t.isLive = false ∧ ∀ xs v t',
                (x.answer .connect).Solo (ClientState.world server) t xs v t' →
                  ∃ l : Result Auth, Tells x xs [.login t.credentials l] ∧
                    v = l.map fun _ => ())) ∨
        ∃ a, Spurned as a ∧ s'.auth = some a ∧
          ∀ xs v t', (x.answer .connect).Solo (ClientState.world server) s' xs v t' →
            ∃ clock, s'.clock ≤ clock ∧
              (s'.isLiveAt clock = true → v = .ok () ∧ Tells x xs [])) := by
  obtain ⟨e, ⟨as, htells, hcourses⟩, hshows⟩ := goes_of_answer hc h
  have he : e = some (.invalidCredentials d) := by
    rcases hshows with heq | ⟨-, missing, hmissing, hnotFound⟩
    · rw [← heq, hr]
    · rw [hr] at hmissing
      cases hmissing
      cases hnotFound
  subst he
  refine ⟨as, htells, hcourses.leaves.imp ?_ ?_⟩
  · rintro ⟨hbarred, hnone⟩
    refine ⟨hbarred, hnone, fun ds t hrun => ?_⟩
    obtain ⟨bs, htells', hconduct⟩ := hrun.conduct
    refine ⟨bs, htells', fun hlogins => ?_⟩
    have hnone' : t.auth = none := by
      rw [← hconduct.hold, hnone]
      exact foldl_hold_none hlogins
    refine ⟨isLiveAt_of_none (Option.map_eq_none_iff.mp hnone') _, fun xs v t' hconnect => ?_⟩
    exact login_of_connect hnone' hconnect
  · rintro ⟨a, hspurned, hsome⟩
    exact ⟨a, hspurned, hsome, fun xs v t' hconnect => idle_of_connect hconnect⟩

/-! ## A turnstile -/

/-- A server that grants the token `t-2` and accepts no token. -/
def turnstile : Server Unit := fun q s =>
  if q.isLogin then (some ⟨200, "\x7b\"data\":\x7b\"token\":\"t-2\"\x7d\x7d"⟩, s)
  else (some ⟨401, ""⟩, s)

/-- A client that has not logged in yet. -/
def walker : ClientState Unit := .start ⟨"admin", "s3cret"⟩ 1800 ()

theorem walker_refused :
    ((deskClient.answer .listDatacenters).run (ClientState.handle turnstile) walker).1 =
      .error (.invalidCredentials "session rejected by a after re-login") := by
  decide +kernel

theorem walker_live :
    ((deskClient.answer .listDatacenters).run (ClientState.handle turnstile) walker).2.isLive =
      true := by
  decide +kernel

theorem answers_isLive (h : s.isLive = true) : (ClientState.world server).answers s .isLive true s :=
  ⟨s.clock, Nat.le_refl _, Prod.ext h.symm rfl⟩

/-- The client without a session logs in twice and is refused twice. -/
theorem session_after_rejection_turnstile :
    ∃ es s', (deskClient.answer .listDatacenters).Solo (ClientState.world turnstile) walker es
        (.error (.invalidCredentials "session rejected by a after re-login")) s' ∧
      ∃ as, Tells deskClient es as ∧ ∃ a, Spurned as a ∧ s'.auth = some a := by
  obtain ⟨es, hes⟩ := exists_solo_run (w := ClientState.world turnstile) (answers_handle turnstile)
    (deskClient.answer .listDatacenters) walker
  rw [walker_refused] at hes
  obtain ⟨as, htells, ⟨-, hnone, -⟩ | ⟨a, hspurned, hsome, -⟩⟩ :=
    session_after_rejection rfl hes rfl
  · have hlive : ((deskClient.answer .listDatacenters).run (ClientState.handle turnstile)
        walker).2.isLive = false := isLiveAt_of_none (Option.map_eq_none_iff.mp hnone) _
    rw [walker_live] at hlive
    cases hlive
  · exact ⟨es, _, hes, as, htells, a, hspurned, hsome⟩

/-- A client whose new session is refused reports that it was rejected, and still holds it as live, so
that a connect is answered without a login. -/
theorem exists_live_after_rejection :
    ∃ ds s, History deskClient turnstile walker ds s ∧
      (∃ es, ds = [⟨⟨.listDatacenters,
        .error (.invalidCredentials "session rejected by a after re-login")⟩, es⟩]) ∧
      (∃ t, (deskClient.answer .isConnected).Solo (ClientState.world turnstile) s [⟨.isLive, true⟩]
        true t) ∧
      ∃ t, (deskClient.answer .connect).Solo (ClientState.world turnstile) s [⟨.isLive, true⟩]
        (.ok ()) t := by
  obtain ⟨es, hes⟩ := exists_solo_run (w := ClientState.world turnstile) (answers_handle turnstile)
    (deskClient.answer .listDatacenters) walker
  rw [walker_refused] at hes
  have hlive := walker_live
  generalize ((deskClient.answer .listDatacenters).run (ClientState.handle turnstile) walker).2 = s
    at hes hlive
  have hanswer : (ClientState.world turnstile).answers s .isLive true s := answers_isLive hlive
  refine ⟨_, s, History.snoc (.nil _) hes, ⟨es, rfl⟩, ⟨s, ?_⟩, ⟨s, ?_⟩⟩
  · exact solo_call_iff.mpr ⟨true, [], s, hanswer, solo_ret_iff.mpr ⟨rfl, rfl, rfl⟩, rfl⟩
  · exact solo_ask_iff.mpr ⟨true, [], s, hanswer, solo_pure_iff.mpr ⟨rfl, rfl, rfl⟩, rfl⟩

end NodeAtlas.Http
