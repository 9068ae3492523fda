import NodeAtlas.Http.Trace
import NodeAtlas.Proofs.Http.Calls
import NodeAtlas.Protocol.Length

/-!
# On the way to data

What a caller that wants data does, as long as its logins are granted, the former token is refused and
any other token is accepted. The places on its way say what it knows about the session.
-/

namespace NodeAtlas.Http

open Protocol NodeAtlas.Json

/-- The places on the way to data. -/
inductive Place where
  /-- Nothing is known about the session. -/
  | arriving
  /-- The lock is held to look for a session once more. -/
  | checking
  /-- The lock is held, and there is a session. -/
  | found
  /-- There is a session. -/
  | ready
  /-- The former token has been read, and may have been refused. -/
  | outdated
  /-- The lock is held to look whether the former token is still there. -/
  | comparing
  /-- The lock is held and a login is needed. -/
  | entitled
  /-- The lock is held and the credentials for a login are at hand. -/
  | armed
  /-- The lock is held and a login has been granted. -/
  | granted (a : Auth)
  /-- The lock is held, and there is a new session. -/
  | settled
  /-- There is a new session. -/
  | renewed
  /-- The token of the new session has been read. -/
  | current (token : String)
  /-- The request has been answered. -/
  | served (q : Request) (r : Response)

namespace Place

def holds : Place → Prop
  | checking | found | comparing | entitled | armed | granted _ | settled => True
  | arriving | ready | outdated | renewed | current _ | served _ _ => False

/-- The request asks for data with a token. -/
def Asks (q : Request) (token : Option String) : Prop := q.isPost = false ∧ q.authorization = token

/-- The calls that are made at a place. -/
inductive Allows (c : Credentials) (former : Option String) : Place → Call → Prop where
  | meet : Allows c former arriving .isLive
  | enter : Allows c former arriving .lock
  | find : Allows c former checking .isLive
  | leave : Allows c former found .unlock
  | read : Allows c former ready .auth
  | tryFormer {q : Request} (h : Asks q former) : Allows c former outdated (.send q)
  | comeBack : Allows c former outdated .lock
  | compare : Allows c former comparing .auth
  | prepare : Allows c former entitled .credentials
  | login (url : Net.Url) : Allows c former armed (.send (loginRequest url c))
  | renew (a : Auth) : Allows c former (granted a) (.setAuth (some a))
  | release : Allows c former settled .unlock
  | reread : Allows c former renewed .auth
  | tryCurrent {q : Request} {token : String} (h : Asks q (some token)) :
    Allows c former (current token) (.send q)

/-- The ways from place to place, given the credentials of the client and the former token. -/
inductive Leads (c : Credentials) (former : Option String) : Place → interface.Exchange → Place → Prop
    where
  | miss : Leads c former arriving ⟨.isLive, false⟩ arriving
  | meet : Leads c former arriving ⟨.isLive, true⟩ ready
  | enter : Leads c former arriving ⟨.lock, ()⟩ checking
  | lack : Leads c former checking ⟨.isLive, false⟩ entitled
  | find : Leads c former checking ⟨.isLive, true⟩ found
  | leave : Leads c former found ⟨.unlock, ()⟩ ready
  | readFormer {a : Auth} (h : some a.token = former) :
    Leads c former ready ⟨.auth, some a⟩ outdated
  | readOther {a : Auth} (h : some a.token ≠ former) :
    Leads c former ready ⟨.auth, some a⟩ (current a.token)
  | refused {q : Request} {r : Response} (h : r.status = 401) :
    Leads c former outdated ⟨.send q, some r⟩ outdated
  | comeBack : Leads c former outdated ⟨.lock, ()⟩ comparing
  | same {a : Option Auth} (h : a.map (·.token) = former) :
    Leads c former comparing ⟨.auth, a⟩ entitled
  | other {a : Auth} (h : some a.token ≠ former) :
    Leads c former comparing ⟨.auth, some a⟩ settled
  | prepare : Leads c former entitled ⟨.credentials, c⟩ armed
  | login {q : Request} {r : Response} {a : Auth} (h : judgeLogin c r = .ok a) :
    Leads c former armed ⟨.send q, some r⟩ (granted a)
  | renew {a : Auth} : Leads c former (granted a) ⟨.setAuth (some a), ()⟩ settled
  | release : Leads c former settled ⟨.unlock, ()⟩ renewed
  | read {a : Auth} : Leads c former renewed ⟨.auth, some a⟩ (current a.token)
  | serve {token : String} {q : Request} {r : Response} (h : r.status ≠ 401) :
    Leads c former (current token) ⟨.send q, some r⟩ (served q r)

variable {c : Credentials} {former : Option String} {g : Place} {x : Client} {α β : Type}

/-- The rules on the way to data. -/
def rules (c : Credentials) (former : Option String) : Discipline interface turns Place where
  allows := Allows c former
  leads := Leads c former
  holds := holds
  not_holds_of_takes {g d} hallowed htakes := by
    cases d with
    | lock => cases hallowed <;> exact id
    | _ => cases htakes
  holds_of_takes {g d r g'} htakes hleads := by
    cases d with
    | lock => cases hleads <;> trivial
    | _ => cases htakes
  not_holds_of_gives {g d r g'} _ hgives hleads := by
    cases d with
    | unlock => cases hleads <;> exact id
    | _ => cases hgives
  holds_iff {g d r g'} htakes hgives hleads := by
    cases hleads with
    | enter => cases htakes
    | comeBack => cases htakes
    | leave => cases hgives
    | release => cases hgives
    | _ => exact .rfl

/-! ## Calls of a client -/

theorem keeps_ask_iff {d : Call} {f : Reply d → Protocol interface α} {Q : α → Place → Prop} :
    (ask d >>= f).Keeps (rules c former) Q g ↔
      Allows c former g d ∧
        ∀ r g', Leads c former g ⟨d, r⟩ g' → (f r).Keeps (rules c former) Q g' :=
  keeps_ask_bind_iff

theorem keeps_currentToken_iff {f : Option String → Protocol interface α} {Q : α → Place → Prop} :
    (currentToken >>= f).Keeps (rules c former) Q g ↔
      Allows c former g .auth ∧ ∀ (a : Option Auth) g', Leads c former g ⟨.auth, a⟩ g' →
        (f (a.map (·.token))).Keeps (rules c former) Q g' := by
  rw [currentToken, LawfulMonad.bind_assoc, keeps_ask_iff]
  exact .rfl

/-- Who may log in does so, and then there is a new session. -/
theorem keeps_refresh (hc : checkCredentials c = .ok ()) {url : Net.Url}
    (hurl : x.url "api/v1/login" = .ok url) :
    x.refresh.Keeps (rules c former) (fun r g => r = .ok () ∧ g = settled) entitled := by
  unfold Client.refresh
  rw [keeps_ask_iff]
  refine ⟨.prepare, fun c' g hread => ?_⟩
  cases hread
  unfold Client.login
  rw [hc, hurl]
  simp only
  rw [LawfulMonad.bind_assoc, keeps_ask_iff]
  refine ⟨.login url, fun r g hlogin => ?_⟩
  cases hlogin with
  | @login _ r a hjudge =>
    simp only [pure_bind, hjudge]
    rw [keeps_ask_iff]
    refine ⟨.renew a, fun _ g hrenew => ?_⟩
    cases hrenew
    exact ⟨rfl, rfl⟩

theorem keeps_ensure (hc : checkCredentials c = .ok ()) {url : Net.Url}
    (hurl : x.url "api/v1/login" = .ok url) :
    x.ensure.Keeps (rules c former) (fun r g => r = .ok () ∧ (g = ready ∨ g = renewed)) arriving := by
  unfold Client.ensure
  rw [keeps_ask_iff]
  refine ⟨.meet, fun live g hlook => ?_⟩
  cases hlook with
  | meet => exact ⟨rfl, .inl rfl⟩
  | miss =>
    simp only [Bool.false_eq_true, if_false]
    rw [keeps_ask_iff]
    refine ⟨.enter, fun _ g henter => ?_⟩
    cases henter
    rw [keeps_ask_iff]
    refine ⟨.find, fun live g hlook => ?_⟩
    cases hlook with
    | find =>
      simp only [if_true, pure_bind]
      rw [keeps_ask_iff]
      refine ⟨.leave, fun _ g hleave => ?_⟩
      cases hleave
      exact ⟨rfl, .inl rfl⟩
    | lack =>
      simp only [Bool.false_eq_true, if_false]
      rw [keeps_bind_iff]
      refine (keeps_refresh hc hurl).mono ?_
      rintro r g ⟨rfl, rfl⟩
      rw [keeps_ask_iff]
      refine ⟨.release, fun _ g hrelease => ?_⟩
      cases hrelease
      exact ⟨rfl, .inr rfl⟩

/-- After the former token was refused, there is a new session, whoever has logged in. -/
theorem keeps_relogin (hc : checkCredentials c = .ok ()) {url : Net.Url}
    (hurl : x.url "api/v1/login" = .ok url) :
    (x.relogin former).Keeps (rules c former) (fun r g => r = .ok () ∧ g = renewed) outdated := by
  unfold Client.relogin
  rw [keeps_ask_iff]
  refine ⟨.comeBack, fun _ g hback => ?_⟩
  cases hback
  rw [keeps_currentToken_iff]
  refine ⟨.compare, fun a g hread => ?_⟩
  cases hread with
  | same hsame =>
    rw [if_neg fun h => h.2 hsame, keeps_bind_iff]
    refine (keeps_refresh hc hurl).mono ?_
    rintro r g ⟨rfl, rfl⟩
    rw [keeps_ask_iff]
    refine ⟨.release, fun _ g hrelease => ?_⟩
    cases hrelease
    exact ⟨rfl, rfl⟩
  | other hother =>
    rw [if_pos ⟨rfl, hother⟩, pure_bind, keeps_ask_iff]
    refine ⟨.release, fun _ g hrelease => ?_⟩
    cases hrelease
    exact ⟨rfl, rfl⟩

/-- Where the new token is at hand, the next request is answered. -/
theorem keeps_get {token : String} (url : Net.Url) (query : List (String × String)) :
    (get url query (some token)).Keeps (rules c former)
      (fun r g => ∃ q r', r = some r' ∧ r'.status ≠ 401 ∧ g = served q r' ∧
        q.url = url.withPairs query) (current token) := by
  refine ⟨.tryCurrent ⟨rfl, rfl⟩, fun r g hserve => ?_⟩
  cases hserve with
  | serve hstatus => exact ⟨_, _, rfl, hstatus, rfl, rfl⟩

theorem keeps_data (hc : checkCredentials c = .ok ()) {url root : Net.Url}
    (hurl : x.url "api/v1/login" = .ok url) {path : String} (hroot : x.dataUrl path = .ok root)
    (read : Json → Option β) (query : List (String × String)) :
    (x.data read path query).Keeps (rules c former)
      (fun v g => ∃ q r, g = served q r ∧ v = judgeData x.server read (some r) ∧
        q.url = root.withPairs query) arriving := by
  unfold Client.data
  rw [keeps_bind_iff]
  refine (keeps_ensure hc hurl).mono ?_
  rintro r g ⟨rfl, hg⟩
  simp only [hroot]
  rw [keeps_currentToken_iff]
  refine ⟨by rcases hg with rfl | rfl <;> constructor, fun a g' hread => ?_⟩
  rw [keeps_bind_iff]
  -- Whether this caller or another one has logged in, the token that it reads is a new one or the former.
  have hplace : (∃ b, a = some b ∧ g' = current b.token) ∨
      ∃ b, a = some b ∧ some b.token = former ∧ g' = outdated := by
    rcases hg with rfl | rfl
    · cases hread with
      | readFormer hformer => exact .inr ⟨_, rfl, hformer, rfl⟩
      | readOther _ => exact .inl ⟨_, rfl, rfl⟩
    · cases hread
      exact .inl ⟨_, rfl, rfl⟩
  rcases hplace with ⟨b, rfl, rfl⟩ | ⟨b, rfl, hformer, rfl⟩
  · refine (keeps_get root query).mono ?_
    rintro r g ⟨q, r', rfl, hstatus, rfl, hq⟩
    rw [if_neg (by simpa using hstatus)]
    exact ⟨q, r', rfl, rfl, hq⟩
  · refine ⟨.tryFormer ⟨rfl, hformer⟩, fun r g hrefused => ?_⟩
    cases hrefused with
    | @refused _ r hstatus =>
      have hrefused : (some r).any (·.status == 401) = true := by simp [hstatus]
      change Keeps _ _ (if _ then _ else _) _
      rw [if_pos hrefused, keeps_bind_iff]
      simp only [Option.map_some, hformer]
      refine (keeps_relogin hc hurl).mono ?_
      rintro r g ⟨rfl, rfl⟩
      simp only
      rw [keeps_currentToken_iff]
      refine ⟨.reread, fun a g hread => ?_⟩
      cases hread
      rw [keeps_bind_iff]
      refine (keeps_get root query).mono ?_
      rintro r g ⟨q, r', rfl, -, rfl, hq⟩
      exact ⟨q, r', rfl, rfl, hq⟩

end Place

/-! ## Numbers of calls -/

section Length

variable {x : Client} {α β : Type} {n : Nat}

theorem callsAtMost_ask {d : Call} {f : Reply d → Protocol interface α}
    (h : ∀ r, (f r).CallsAtMost n) : (ask d >>= f).CallsAtMost (n + 1) := h

theorem callsAtMost_currentToken {f : Option String → Protocol interface α}
    (h : ∀ token, (f token).CallsAtMost n) : (currentToken >>= f).CallsAtMost (n + 1) := by
  rw [currentToken, LawfulMonad.bind_assoc]
  exact callsAtMost_ask fun a => h _

theorem callsAtMost_login (c : Credentials) : (x.login c).CallsAtMost 1 := by
  unfold Client.login
  split
  · exact callsAtMost_ret _ _
  · exact callsAtMost_ret _ _
  · refine callsAtMost_ask fun r => ?_
    cases r <;> exact callsAtMost_ret _ _

theorem callsAtMost_refresh : x.refresh.CallsAtMost 3 := by
  unfold Client.refresh
  refine callsAtMost_ask fun c => (callsAtMost_login c).bind (n := 1) fun r => ?_
  cases r <;> exact callsAtMost_ask fun _ => callsAtMost_ret _ _

theorem callsAtMost_unlock (r : α) : (do ask .unlock; return r).CallsAtMost 1 :=
  callsAtMost_ask fun _ => callsAtMost_ret _ _

theorem callsAtMost_ensure : x.ensure.CallsAtMost 7 := by
  unfold Client.ensure
  refine callsAtMost_ask fun live => ?_
  cases live with
  | true => exact callsAtMost_ret _ _
  | false =>
    refine callsAtMost_ask fun _ => callsAtMost_ask fun live => ?_
    cases live with
    | true => exact (callsAtMost_unlock _).mono (by omega)
    | false => exact callsAtMost_refresh.bind fun r => callsAtMost_unlock r

theorem callsAtMost_relogin (rejected : Option String) : (x.relogin rejected).CallsAtMost 6 := by
  unfold Client.relogin
  refine callsAtMost_ask fun _ => callsAtMost_currentToken fun token => ?_
  split
  · exact (callsAtMost_unlock _).mono (by omega)
  · exact callsAtMost_refresh.bind fun r => callsAtMost_unlock r

theorem callsAtMost_data (read : Json → Option β) (path : String) (query : List (String × String)) :
    (x.data read path query).CallsAtMost 17 := by
  unfold Client.data
  refine callsAtMost_ensure.bind (n := 10) fun r => ?_
  cases r with
  | error e => exact callsAtMost_ret _ _
  | ok _ =>
    simp only
    split
    · exact callsAtMost_ret _ _
    · refine callsAtMost_currentToken fun token => callsAtMost_ask fun r => ?_
      split
      · refine (callsAtMost_relogin token).bind (n := 2) fun r => ?_
        cases r with
        | error e => exact callsAtMost_ret _ _
        | ok _ =>
          exact callsAtMost_currentToken fun token => callsAtMost_ask fun r => callsAtMost_ret _ _
      · exact callsAtMost_ret _ _

theorem callsAtMost_fetch (f : Fetch β) : (f.protocol x).CallsAtMost 17 := by
  unfold Fetch.protocol
  rw [map_eq_pure_bind]
  exact (callsAtMost_data f.read f.path f.query).bind (n := 0) fun _ => callsAtMost_ret _ _

end Length

end NodeAtlas.Http
