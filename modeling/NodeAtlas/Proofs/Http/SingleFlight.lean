import NodeAtlas.Proofs.Http.Caller
import NodeAtlas.Proofs.Http.Renewal

/-!
# One login for all

Callers that want data at the same time and find no session, or one that is refused, log in once: the
first that gets the lock does it for all of them, and all are answered.
-/

namespace NodeAtlas.Http

open Protocol Interleaving NodeAtlas.Json

variable {σ : Type} {server : Server σ} {accepts : σ → String → Prop}
  {es : List (Event interface)} {i j : Nat} {s₀ : ClientState σ} {g : Place}

/-! ## All callers -/

/-- An allowed call leaves the session alone, or it is the login, or it puts the new session in its
place. -/
theorem Place.Leads.cases_on_calm {c : Credentials} {former : Option String} {d : Call} {r : Reply d}
    {g' : Place} (hallowed : Allows c former g d) (hleads : Leads c former g ⟨d, r⟩ g') :
    d.isCalm = true ∧ (∀ a, g ≠ granted a) ∨
      g = armed ∧ (∃ q, d = .send q) ∧ (∃ a, g' = granted a) ∨
      (∃ a, g = granted a ∧ d = .setAuth (some a)) ∧ g' = settled := by
  cases hallowed with
  | login url =>
    cases hleads
    exact .inr (.inl ⟨rfl, ⟨_, rfl⟩, _, rfl⟩)
  | renew a =>
    cases hleads
    exact .inr (.inr ⟨⟨a, rfl, rfl⟩, rfl⟩)
  | tryFormer h => exact .inl ⟨by simp [Call.isCalm, h.1], by simp⟩
  | tryCurrent h => exact .inl ⟨by simp [Call.isCalm, h.1], by simp⟩
  | _ => exact .inl ⟨rfl, by simp⟩

theorem Place.Allows.ne_setCredentials {c : Credentials} {former : Option String} {d : Call}
    (h : Allows c former g d) (e : Credentials) : d ≠ .setCredentials e := by
  rintro rfl
  cases h

/-- What holds of every run of `n` callers on their way to data. -/
structure Flight {β : Type} (accepts : σ → String → Prop) (Q : Nat → β → Place → Prop) (n : Nat)
    (s₀ : ClientState σ) (es : List (Event interface)) (t : Interleaving interface β (ClientState σ))
    (pos : Nat → Place) : Prop where
  tracks : t.Tracks (Place.rules s₀.credentials s₀.token) Q pos
  live : ∀ i < n, ∃ p, t.threads[i]? = some (some p)
  lifetime : t.world.lifetime = s₀.lifetime
  credentials : t.world.credentials = s₀.credentials
  clock : s₀.clock ≤ t.world.clock
  fits : ∀ i p, t.threads[i]? = some (some p) → Fits accepts s₀ es t.world i (pos i)
  /-- Nobody has logged in, or somebody is about to put the new session in its place, or it is
  there. -/
  session : t.world.session = s₀.session ∧
      (logins es = 0 ∨ logins es = 1 ∧ ∃ i a, t.holder = some i ∧ pos i = .granted a) ∨
    Renewed accepts s₀ t.world ∧ logins es = 1

namespace Flight

variable {β : Type} {Q : Nat → β → Place → Prop} {n : Nat} {pos : Nat → Place}
  {t : Interleaving interface β (ClientState σ)}

theorem logins_le_one (h : Flight accepts Q n s₀ es t pos) : logins es ≤ 1 := by
  rcases h.session with ⟨-, hnone | ⟨hone, -⟩⟩ | ⟨-, hone⟩ <;> omega

theorem sure (h : Flight accepts Q n s₀ es t pos) {p : Protocol interface β}
    (hi : t.threads[i]? = some (some p)) : Sure accepts s₀ es t.world (pos i) where
  lifetime := h.lifetime
  credentials := h.credentials
  clock := h.clock
  session := h.session.imp And.left And.left
  before hholds hgranted hsession := by
    rcases h.session with ⟨-, hnone | ⟨-, j, a, hholder, hj⟩⟩ | ⟨hrenewed, -⟩
    · exact hnone
    · rw [(h.tracks.holder_iff i).mpr ⟨⟨p, hi⟩, hholds⟩] at hholder
      obtain rfl := Option.some.inj hholder
      exact absurd hj (hgranted a)
    · exact absurd hrenewed (not_renewed hsession)

/-- Another caller is still at a place that fits. -/
theorem fits_other (h : Flight accepts Q n s₀ es t pos)
    (hserver : Welcoming server s₀.credentials s₀.token accepts) {c : Call} {r : Reply c}
    {next : Reply c → Protocol interface β} {s : ClientState σ} {g : Place}
    (hi : t.threads[i]? = some (some (.call c next)))
    (hw : (ClientState.world server).answers t.world c r s)
    (hleads : Place.Leads s₀.credentials s₀.token (pos i) ⟨c, r⟩ g) (hji : j ≠ i)
    {p : Protocol interface β} (hj : t.threads[j]? = some (some p)) :
    Fits accepts s₀ (es ++ [.answered i ⟨c, r⟩]) s j (pos j) := by
  have hfits := h.fits i _ hi
  -- While somebody logs in, nobody else has the lock.
  have hfree (hholds : (pos i).holds) : ¬ (pos j).holds := fun hholds' =>
    hji (h.tracks.eq_of_holds hj hholds' hi hholds)
  rcases hleads.cases_on_calm (h.tracks.allows hi) with
    ⟨hcalm, -⟩ | ⟨hplace, ⟨q, rfl⟩, -⟩ | ⟨⟨a, hplace, rfl⟩, -⟩
  · exact (calm_of_answers hserver hcalm hw).fits (logins_of_isCalm hcalm) (h.fits j p hj)
  · rw [hplace] at hfits hfree
    refine fits_of_not_holds (h.fits j p hj) (hfree trivial) hfits.1 (fun hsome => ?_) _
    rwa [(send_of_answers hw).2.2]
  · rw [hplace] at hfits hfree
    refine fits_of_not_holds (h.fits j p hj) (hfree trivial) hfits.1 (fun _ => ?_) _
    rw [(setAuth_of_answers hw).1]
    rfl

theorem answered (h : Flight accepts Q n s₀ es t pos)
    (hserver : Welcoming server s₀.credentials s₀.token accepts) {c : Call} {r : Reply c}
    {next : Reply c → Protocol interface β} {s : ClientState σ}
    (hi : t.threads[i]? = some (some (.call c next)))
    (hw : (ClientState.world server).answers t.world c r s)
    (hlock : turns.takes c = true → t.holder = none) (htime : s.clock ≤ s₀.clock + s₀.lifetime) :
    ∃ pos, Flight accepts Q n s₀ (es ++ [.answered i ⟨c, r⟩])
      ⟨s, t.threads.set i (some (next r)), holderAfter turns i c t.holder⟩ pos := by
  have hallowed : Place.Allows s₀.credentials s₀.token (pos i) c := h.tracks.allows hi
  obtain ⟨g, hleads, hfits⟩ :=
    exists_leads hserver (h.sure hi) (h.fits i _ hi) hallowed hw htime
  have htracks := h.tracks.answered (w := s) hi hlock hleads
  have hlifetime := lifetime_of_answers hw
  have hcredentials := credentials_eq_of_answers hallowed.ne_setCredentials hw
  have hlt : i < t.threads.length := (List.getElem?_eq_some_iff.mp hi).1
  refine ⟨_, htracks, fun j hj => ?_, hlifetime.trans h.lifetime, hcredentials.trans h.credentials,
    h.clock.trans (clock_le_of_answers hw), fun j p hj => ?_, ?_⟩
  · by_cases hji : j = i
    · subst hji
      exact ⟨_, List.getElem?_set_self hlt⟩
    · obtain ⟨p, hp⟩ := h.live j hj
      exact ⟨p, (List.getElem?_set_ne (Ne.symm hji)).trans hp⟩
  · by_cases hji : j = i
    · subst hji
      rw [Function.update_self]
      exact hfits
    · rw [Function.update_of_ne hji]
      rw [List.getElem?_set_ne (Ne.symm hji)] at hj
      exact h.fits_other hserver hi hw hleads hji hj
  · rcases hleads.cases_on_calm hallowed with
      ⟨hcalm, hgranted⟩ | ⟨-, -, a, rfl⟩ | ⟨⟨a, hplace, rfl⟩, rfl⟩
    · have hcalms := calm_of_answers hserver hcalm hw
      rw [logins_of_isCalm hcalm]
      rcases h.session with ⟨hformer, hnone | ⟨hone, j, a, hholder, hj⟩⟩ | ⟨hrenewed, hone⟩
      · exact .inl ⟨hcalms.session.trans hformer, .inl hnone⟩
      · have hji : j ≠ i := by
          rintro rfl
          exact hgranted a hj
        refine .inl ⟨hcalms.session.trans hformer, .inr ⟨hone, j, a, ?_, ?_⟩⟩
        · exact (holderAfter_of_ne hji hlock).mpr hholder
        · rw [Function.update_of_ne hji, hj]
      · exact .inr ⟨hcalms.renewed hrenewed, hone⟩
    · refine .inl ⟨hfits.1, .inr ⟨hfits.2.1, i, a, ?_, Function.update_self ..⟩⟩
      refine (htracks.holder_iff i).mpr ⟨⟨_, List.getElem?_set_self hlt⟩, ?_⟩
      rw [Function.update_self]
      trivial
    · have hbefore := h.fits i _ hi
      rw [hplace] at hbefore
      refine .inr ⟨hfits, ?_⟩
      rw [logins_append, logins_singleton, hbefore.2.1]
      rfl

theorem of_steps {t : Interleaving interface β (ClientState.world server).State}
    {s : Interleaving interface β (ClientState σ)}
    (hserver : Welcoming server s₀.credentials s₀.token accepts)
    (h₀ : Flight accepts Q n s₀ [] s pos) (h : Steps turns (ClientState.world server) s es t)
    (hkept : ∀ i, .abandoned i ∉ es) (htime : t.world.clock ≤ s₀.clock + s₀.lifetime) :
    ∃ pos, Flight accepts Q n s₀ es t pos := by
  induction h with
  | refl => exact ⟨pos, h₀⟩
  | @tail u v es e hs hstep ih =>
    have hkept' : ∀ i, .abandoned i ∉ es := fun i hi => hkept i (List.mem_append_left _ hi)
    cases hstep with
    | abandoned hi => exact absurd (List.mem_append_right es List.mem_cons_self) (hkept _)
    | @answered i c next r world hi hw hlock =>
      have hclock : u.world.clock ≤ world.clock := clock_le_of_answers hw
      obtain ⟨pos, hpos⟩ := ih hkept' (hclock.trans htime)
      exact hpos.answered hserver hi hw hlock htime

end Flight

/-- The caller has the data, as it was sent in response to a request with the present token. -/
def Answered {β : Type} (x : Client) (f : Fetch β) (v : β) (g : Place) : Prop :=
  ∃ q r root, x.dataUrl f.path = .ok root ∧ q.url = root.withPairs f.query ∧ g = .served q r ∧
    v = f.finish (judgeData x.server f.read (some r))

theorem Flight.start {β : Type} {x : Client} (hc : checkCredentials s₀.credentials = .ok ())
    {url : Net.Url} (hurl : x.url "api/v1/login" = .ok url) {fetches : List (Fetch β)}
    (hroots : ∀ f ∈ fetches, ∃ root, x.dataUrl f.path = .ok root) :
    Flight accepts (fun i v g => ∃ f, fetches[i]? = some f ∧ Answered x f v g) fetches.length s₀ []
      (start s₀ (fetches.map (·.protocol x))) fun _ => .arriving where
  tracks := by
    refine tracks_start (fun i p hp => ?_) id
    rw [List.getElem?_map] at hp
    obtain ⟨f, hf, rfl⟩ := Option.map_eq_some_iff.mp hp
    obtain ⟨root, hroot⟩ := hroots f (List.mem_of_getElem? hf)
    unfold Fetch.protocol
    rw [keeps_map_iff]
    refine (Place.keeps_data hc hurl hroot f.read f.query).mono ?_
    rintro v g ⟨q, r, rfl, rfl, hq⟩
    exact ⟨f, hf, q, r, root, hroot, hq, rfl, rfl⟩
  live i hi := by
    refine ⟨(fetches[i]).protocol x, ?_⟩
    simp [Interleaving.start, hi]
  lifetime := rfl
  credentials := rfl
  clock := Nat.le_refl _
  fits _ _ _ := trivial
  session := .inl ⟨rfl, .inl rfl⟩

/-- The caller has returned what it wanted to know: the data in a response to its request, which
carried the present token. -/
def Served {β : Type} (x : Client) (f : Fetch β) (es : List (Event interface))
    (t : Interleaving interface β (ClientState σ)) (i : Nat) : Prop :=
  ∃ q r root, x.dataUrl f.path = .ok root ∧ q.url = root.withPairs f.query ∧
    q.authorization = t.world.token ∧ r.status ≠ 401 ∧ .answered i ⟨.send q, some r⟩ ∈ es ∧
    t.threads[i]? = some (some (.ret (f.finish (judgeData x.server f.read (some r)))))

/-- At the end, the new session is there and everybody is served. -/
theorem Flight.served {β : Type} {x : Client} {fetches : List (Fetch β)} {pos : Nat → Place}
    {t : Interleaving interface β (ClientState σ)}
    (h : Flight accepts (fun i v g => ∃ f, fetches[i]? = some f ∧ Answered x f v g) fetches.length s₀
      es t pos) (hfinal : t.Final) {f : Fetch β} (hf : fetches[i]? = some f) :
    Renewed accepts s₀ t.world ∧ Served x f es t i := by
  obtain ⟨p, hp⟩ := h.live i (List.getElem?_eq_some_iff.mp hf).1
  obtain ⟨v, rfl⟩ := hfinal p (List.mem_of_getElem? hp)
  obtain ⟨f', hf', q, r, root, hroot, hq, hplace, rfl⟩ := h.tracks.keeps i _ hp
  obtain rfl : f = f' := Option.some.inj (hf.symm.trans hf')
  have hfits := h.fits i _ hp
  rw [hplace] at hfits
  obtain ⟨hrenewed, htoken, hstatus, hmem⟩ := hfits
  exact ⟨hrenewed, q, r, root, hroot, hq, htoken, hstatus, hmem, hp⟩

/-- In every run, one caller at a time logs in, and it has decided so with the lock in its hands,
when the session could not be used. A session is replaced only if it cannot be used.

If the server refuses the former token, if there was one, and grants other tokens that it accepts, then
callers that want data at the same time are all served after one login, as long as the new session does
not grow too old and nobody is abandoned: no run is longer than 18 steps for each of them, and it can go
on at any time until all of them have returned. -/
theorem single_flight (x : Client) (server : Server σ) :
    (∀ {α : Type} (ps : List (Protocol Session.interface α)) (s₀ : ClientState σ) es t,
      Steps turns (ClientState.world server) (start s₀ (ps.map (·.interpret x.answer))) es t →
        (∀ i j, LoggingIn t i → LoggingIn t j → i = j) ∧
        (∀ i, LoggingIn t i → t.holder = some i ∧
          Decided server (start s₀ (ps.map (·.interpret x.answer))) es t i) ∧
        ∀ (i : Nat) a (next : Unit → Protocol interface α),
          t.threads[i]? = some (some (.call (.setAuth a) next)) → t.world.Stale es) ∧
    ∀ {β : Type} (fetches : List (Fetch β)) (s₀ : ClientState σ) (accepts : σ → String → Prop) url,
      Welcoming server s₀.credentials s₀.token accepts →
      checkCredentials s₀.credentials = .ok () → x.url "api/v1/login" = .ok url →
      (∀ f ∈ fetches, ∃ root, x.dataUrl f.path = .ok root) → ∀ es t,
      Steps turns (ClientState.world server) (start s₀ (fetches.map (·.protocol x))) es t →
      (∀ i, .abandoned i ∉ es) → t.world.clock ≤ s₀.clock + s₀.lifetime →
        logins es ≤ 1 ∧ es.length ≤ fetches.length * 18 ∧
        (¬ t.Final → ∃ i y u, Step turns (ClientState.world server) t (.answered i y) u ∧
          u.world.clock = t.world.clock) ∧
        (t.Final → (fetches ≠ [] → logins es = 1) ∧
          ∀ i f, fetches[i]? = some f → t.world.token ≠ s₀.token ∧ Served x f es t i) := by
  refine ⟨fun ps s₀ es t h => orderly_logins h, ?_⟩
  intro β fetches s₀ accepts url hserver hc hurl hroots es t h hkept htime
  obtain ⟨pos, hpos⟩ := (Flight.start hc hurl hroots).of_steps hserver h hkept htime
  refine ⟨hpos.logins_le_one, ?_, fun hgoing => ?_, fun hfinal => ⟨fun hsome => ?_, fun i f hf => ?_⟩⟩
  · have hlength := length_le_of_steps (n := 17) (fun p hp => by
      obtain ⟨f, -, rfl⟩ := List.mem_map.mp hp
      exact callsAtMost_fetch f) h
    rwa [List.length_map] at hlength
  · have hreturns (i : Nat) (v : β) (g : Place)
        (hv : ∃ f, fetches[i]? = some f ∧ Answered x f v g) : ¬ g.holds := by
      obtain ⟨f, -, q, r, root, -, -, rfl, -⟩ := hv
      exact id
    obtain ⟨i, c, next, hi, hlock⟩ := hpos.tracks.exists_ready hreturns hgoing
    obtain ⟨r, s, hw, hclock⟩ := exists_answer server t.world c
    exact ⟨i, ⟨c, r⟩, _, .answered hi hw hlock, hclock⟩
  · obtain ⟨f, hf⟩ := List.exists_mem_of_ne_nil _ hsome
    obtain ⟨i, hi⟩ := List.mem_iff_getElem?.mp hf
    obtain ⟨hrenewed, -⟩ := hpos.served hfinal hi
    rcases hpos.session with ⟨hformer, -⟩ | ⟨-, hone⟩
    · exact absurd hrenewed (not_renewed hformer)
    · exact hone
  · obtain ⟨hrenewed, hserved⟩ := hpos.served hfinal hf
    refine ⟨?_, hserved⟩
    obtain ⟨a, since, hsession, hother, -⟩ := hrenewed
    rwa [token_of_auth (auth_of_session hsession)]

/-! ## A desk -/

/-- A server that grants the token `t-2`. It accepts no other one, and this one only after a login. -/
def desk : Server Bool := fun q granted =>
  if q.isLogin then (some ⟨200, "\x7b\"data\":\x7b\"token\":\"t-2\"\x7d\x7d"⟩, true)
  else if granted = true ∧ q.authorization = some "t-2" then
    (some ⟨200, "\x7b\"data\":[]\x7d"⟩, granted)
  else (some ⟨401, ""⟩, granted)

/-- A client that holds the token of a session that is over. -/
def visitor : ClientState Bool :=
  { credentials := ⟨"admin", "secret"⟩, lifetime := 60, server := false,
    session := some (⟨"t-1", "admin"⟩, 0) }

/-- A client that has not logged in yet. -/
def newcomer : ClientState Bool := visitor.hold none

def deskClient : Client := ⟨⟨⟨.https, .domain "a", none⟩, [""], none, none⟩, "a", false⟩

def listing : Fetch (Result (Option (List Datacenter))) :=
  ⟨asList Datacenter.ofJson?, "datacenters", [], id⟩

/-- Two callers that want to connect. -/
def callers : List (Protocol Session.interface (Result Unit)) :=
  [.call .connect .ret, .call .connect .ret]

theorem desk_of_get {q : Request} (hget : q.isPost = false) (granted : Bool) :
    desk q granted =
      if granted = true ∧ q.authorization = some "t-2" then
        (some ⟨200, "\x7b\"data\":[]\x7d"⟩, granted)
      else (some ⟨401, ""⟩, granted) := by
  unfold desk
  rw [if_neg (by simp [Request.isLogin, hget])]

theorem welcoming_desk :
    Welcoming desk visitor.credentials visitor.token fun granted token =>
      granted = true ∧ token = "t-2" where
  grants url granted := by
    refine ⟨_, ⟨"t-2", "admin"⟩, rfl, ?_, ?_, rfl, rfl⟩
    · decide +kernel
    · decide +kernel
  answers q granted token hget htoken haccepts := by
    rw [desk_of_get hget, htoken, if_pos ⟨haccepts.1, by rw [haccepts.2]⟩]
    exact ⟨_, rfl, by decide⟩
  remembers q granted token hget haccepts := by
    rw [desk_of_get hget]
    split_ifs <;> exact haccepts
  refuses q granted token hget htoken hformer := by
    have hother : q.authorization ≠ some "t-2" := by
      rw [htoken, ← hformer]
      decide +kernel
    rw [desk_of_get hget, if_neg fun h => hother h.2]
    exact ⟨_, rfl, rfl⟩

/-- Two callers hold a token that is refused, and both are served after one login. Of two callers
without a session, one logs in while the other has to wait. -/
theorem single_flight_desk :
    (∃ es t, Steps turns (ClientState.world desk)
        (start visitor ([listing, listing].map (·.protocol deskClient))) es t ∧
      logins es = 1 ∧ Served deskClient listing es t 0 ∧ Served deskClient listing es t 1) ∧
    ∃ es t, Steps turns (ClientState.world desk)
        (start newcomer (callers.map (·.interpret deskClient.answer))) es t ∧
      LoggingIn t 0 ∧ t.holder = some 0 ∧ ¬ LoggingIn t 1 := by
  obtain ⟨hturns, hflight⟩ := single_flight deskClient desk
  constructor
  · have hroot : ∃ root, deskClient.dataUrl listing.path = .ok root :=
      ⟨⟨⟨.https, .domain "a", none⟩, ["api", "v1", "datacenters"], none, none⟩, by decide +kernel⟩
    have hflight := hflight [listing, listing] visitor _
      ⟨⟨.https, .domain "a", none⟩, ["api", "v1", "login"], none, none⟩ welcoming_desk
      (by decide +kernel) (by decide +kernel) (by simpa using hroot)
    -- No time has to pass until everybody is served.
    obtain ⟨es, t, hrun, ⟨hkept, hclock⟩, hfinal⟩ := exists_final
      (P := fun (es : List (Event interface)) (t : Interleaving interface
        (Result (Option (List Datacenter))) (ClientState.world desk).State) =>
        (∀ i, .abandoned i ∉ es) ∧ t.world.clock = 0)
      (fun es t hrun ht => (hflight es t hrun ht.1 (by rw [ht.2]; exact Nat.zero_le _)).2.1)
      (fun es t hrun ht hgoing => by
        obtain ⟨-, -, hnext, -⟩ := hflight es t hrun ht.1 (by rw [ht.2]; exact Nat.zero_le _)
        obtain ⟨i, y, u, hstep, hclock⟩ := hnext hgoing
        refine ⟨_, u, hstep, fun j hj => ?_, hclock.trans ht.2⟩
        rcases List.mem_append.mp hj with hj | hj
        · exact ht.1 j hj
        · cases List.mem_singleton.mp hj)
      ⟨nofun, rfl⟩
    obtain ⟨-, -, -, hend⟩ := hflight es t hrun hkept (by rw [hclock]; exact Nat.zero_le _)
    obtain ⟨hone, hserved⟩ := hend hfinal
    exact ⟨es, t, hrun, hone nofun, (hserved 0 listing rfl).2, (hserved 1 listing rfl).2⟩
  · have hanswer (s : ClientState Bool) (c : Call) : (ClientState.world desk).answers s c
        (ClientState.answer desk c s).1 (ClientState.answer desk c s).2 :=
      ⟨s.clock, Nat.le_refl _, rfl⟩
    -- The first caller finds no session, takes the lock, looks once more and reads the credentials.
    have hreach : ∃ es t, Steps turns (ClientState.world desk)
        (start newcomer (callers.map (·.interpret deskClient.answer))) es t ∧ LoggingIn t 0 :=
      ⟨_, _, .tail (.tail (.tail (.tail (.refl _)
        (.answered (i := 0) rfl (hanswer _ _) nofun))
        (.answered (i := 0) rfl (hanswer _ _) fun _ => rfl))
        (.answered (i := 0) rfl (hanswer _ _) nofun))
        (.answered (i := 0) rfl (hanswer _ _) nofun), ⟨_, _, rfl, rfl⟩⟩
    obtain ⟨es, t, hrun, hfirst⟩ := hreach
    obtain ⟨hone, hholds, -⟩ := hturns _ _ _ _ hrun
    refine ⟨es, t, hrun, hfirst, (hholds 0 hfirst).1, fun hsecond => ?_⟩
    exact absurd (hone 0 1 hfirst hsecond) (by decide)

end NodeAtlas.Http
