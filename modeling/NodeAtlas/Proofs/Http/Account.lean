import Mathlib.Data.List.Induction
import NodeAtlas.Proofs.Http.Course
import NodeAtlas.Proofs.Http.SingleFlight

/-!
# The account of a history

Calls on the session of a client are made of few kinds of steps, so that what they do to the session
and which token their requests carry can be read off the acts alone.
-/

namespace NodeAtlas.Http

open Protocol NodeAtlas.Json

variable {σ α : Type} {server : Server σ} {x : Client} {s s' : ClientState σ}
  {es : List interface.Exchange} {as bs : List Act} {a b : Option Auth}

/-! ## Acts and sessions -/

/-- The acts lead from one session to another, and requests carry the token of the session between
them. -/
structure Conduct (a : Option Auth) (as : List Act) (b : Option Auth) : Prop where
  hold : as.foldl Act.hold a = b
  bear : Bear a as

theorem bear_append_iff : Bear a (as ++ bs) ↔ Bear a as ∧ Bear (as.foldl Act.hold a) bs := by
  induction as generalizing a with
  | nil => simp [Bear]
  | cons act as ih => simp [Bear, ih, and_assoc]

namespace Conduct

theorem nil (a : Option Auth) : Conduct a [] a := ⟨rfl, trivial⟩

theorem append {c : Option Auth} (h : Conduct a as b) (h' : Conduct b bs c) :
    Conduct a (as ++ bs) c where
  hold := by rw [List.foldl_append, h.hold, h'.hold]
  bear := by
    rw [bear_append_iff, h.hold]
    exact ⟨h.bear, h'.bear⟩

theorem login (a : Option Auth) (c : Credentials) (r : Result Auth) :
    Conduct a [.login c r] r.toOption := ⟨rfl, trivial, trivial⟩

theorem inquiry (url : Net.Url) (query : List (String × String)) (a : Auth) (r : Option Response) :
    Conduct (some a) [.get (inquiry url query a) r] (some a) := ⟨rfl, ⟨a, rfl, rfl⟩, trivial⟩

end Conduct

theorem held_append : held (as ++ bs) = bs.foldl Act.hold (held as) := List.foldl_append

/-- A client holds the session of its last login, if that has succeeded and the client has not logged
out since. -/
theorem held_eq_some_iff {auth : Auth} : held as = some auth ↔ LoggedIn as auth := by
  induction as using List.reverseRecOn with
  | nil =>
    constructor
    · intro h
      cases h
    · rintro ⟨before, c, after, heq, -⟩
      simp at heq
  | append_singleton as act ih =>
    rw [held_append]
    constructor
    · intro h
      cases act with
      | login c r =>
        cases r with
        | ok auth' =>
          obtain rfl := Option.some.inj h
          exact ⟨as, c, [], rfl, fun _ hact => absurd hact List.not_mem_nil⟩
        | error e => cases h
      | get q r =>
        obtain ⟨before, c, after, rfl, hafter⟩ := ih.mp h
        refine ⟨before, c, after ++ [.get q r], by simp, fun act hact => ?_⟩
        rcases List.mem_append.mp hact with hact | hact
        · exact hafter act hact
        · exact ⟨q, r, List.mem_singleton.mp hact⟩
      | logout r => cases h
    · rintro ⟨before, c, after, heq, hafter⟩
      rcases List.eq_nil_or_concat after with rfl | ⟨after, last, rfl⟩
      · obtain ⟨rfl, hact⟩ := List.append_inj' heq rfl
        obtain rfl := List.singleton_inj.mp hact
        rfl
      · rw [List.concat_eq_append, ← List.cons_append, ← List.append_assoc] at heq
        obtain ⟨rfl, hact⟩ := List.append_inj' heq rfl
        obtain rfl := List.singleton_inj.mp hact
        obtain ⟨q, r, rfl⟩ := hafter act (by simp)
        exact ih.mpr ⟨before, c, after, rfl, fun act hact => hafter act (by simp [hact])⟩

/-! ## Requests for data -/

theorem Opening.conduct {c : Credentials} {live : Option Auth} {r : Result Auth}
    (h : Opening c live as r) (hlive : live = none ∨ live = a) : Conduct a as r.toOption := by
  cases h with
  | live auth =>
    obtain rfl : some auth = a := hlive.resolve_left (by simp)
    exact .nil _
  | login r => exact .login a c r

theorem Course.conduct {c : Credentials} {read : Json → Option α} {path : String}
    {query : List (String × String)} {live : Option Auth} {v : Result (Option α)}
    (h : Course x c read path query live as v b) (hlive : live = none ∨ live = a) :
    Conduct a as b := by
  cases h with
  | closed h => exact h.conduct hlive
  | astray h => exact h.conduct hlive
  | served h => exact (h.conduct hlive).append (.inquiry _ _ _ _)
  | lost h =>
    exact (h.conduct hlive).append (.append (.inquiry _ _ _ _) (.login _ _ _))
  | renewed h _ _ r' =>
    refine (h.conduct hlive).append (.append (.inquiry _ _ _ _) (.append (.login _ c (.ok _)) ?_))
    exact .inquiry _ _ _ r'

theorem liveAt_eq (s : ClientState σ) (clock : Nat) :
    s.liveAt clock = none ∨ s.liveAt clock = s.auth := by
  unfold ClientState.liveAt
  split
  · exact .inr rfl
  · exact .inl rfl

theorem Courses.conduct {e : Option Error} (h : Courses x s as e s') : Conduct s.auth as s'.auth := by
  induction h with
  | done s => exact .nil s.auth
  | failed _ h => exact h.conduct (liveAt_eq _ _)
  | step _ h _ _ ih => exact (h.conduct (liveAt_eq _ _)).append ih

/-! ## Calls on the session -/

/-- The exchanges are those of requests for data one after another. -/
def Goes (x : Client) (s : ClientState σ) (es : List interface.Exchange) (e : Option Error)
    (s' : ClientState σ) : Prop :=
  ∃ as, Tells x es as ∧ Courses x s as e s'

/-- The error of a request shows in the reply. Otherwise nothing but what is looked for can be
missing. -/
def Shows (e shown : Option Error) : Prop :=
  shown = e ∨ e = none ∧ ∃ missing, shown = some missing ∧ missing.isNotFound = true

theorem Shows.rfl (e : Option Error) : Shows e e := .inl (.refl e)

theorem shows_missing {e : Error} (he : e.isNotFound = true) : Shows none (some e) :=
  .inr ⟨.refl none, e, .refl _, he⟩

theorem Shows.eq_none {e : Option Error} (h : Shows e none) : e = none := by
  rcases h with h | ⟨h, -⟩
  · exact h.symm
  · exact h

theorem Goes.done (s : ClientState σ) : Goes x s [] none s := ⟨[], .nil, .done s⟩

theorem Goes.of_pure {β : Type} {r v : β} {t : ClientState σ} {e : Option Error}
    {fs : List interface.Exchange} (h : Goes x s es e t)
    (hret : (pure v : Protocol interface β).Solo (ClientState.world server) t fs r s') :
    r = v ∧ Goes x s (es ++ fs) e s' := by
  obtain ⟨rfl, rfl, rfl⟩ := solo_pure_iff.mp hret
  rw [List.append_nil]
  exact ⟨rfl, h⟩

section Data

variable {read : Json → Option α} {path : String} {query : List (String × String)}

theorem goes_of_data_error {e : Error}
    (h : (x.data read path query).Solo (ClientState.world server) s es (.error e) s') :
    Goes x s es (some e) s' := by
  obtain ⟨clock, as, hclock, htells, hcourse, -⟩ := course_of_data h
  exact ⟨as, htells, .failed hclock hcourse⟩

theorem Goes.step {t : ClientState σ} {v : Option α} {e : Option Error}
    {fs : List interface.Exchange}
    (h : (x.data read path query).Solo (ClientState.world server) s es (.ok v) t)
    (hrest : Goes x t fs e s') : Goes x s (es ++ fs) e s' := by
  obtain ⟨clock, as, hclock, htells, hcourse, ht⟩ := course_of_data h
  obtain ⟨bs, htells', hrest⟩ := hrest
  exact ⟨as ++ bs, htells.append htells', .step hclock hcourse ht hrest⟩

theorem goes_of_data_ok {v : Option α}
    (h : (x.data read path query).Solo (ClientState.world server) s es (.ok v) s') :
    Goes x s es none s' := by
  have hstep := Goes.step h (.done s')
  rwa [List.append_nil] at hstep

end Data

theorem goes_of_datacenters {r : Result (List Datacenter)}
    (h : x.datacenters.Solo (ClientState.world server) s es r s') :
    ∃ e, Goes x s es e s' ∧ Shows e (Session.error? .listDatacenters r) := by
  unfold Client.datacenters at h
  obtain ⟨fs, v, t, gs, hdata, h₁, rfl⟩ := solo_bind_iff.mp h
  cases v with
  | error e =>
    obtain ⟨rfl, hgoes⟩ := (goes_of_data_error hdata).of_pure h₁
    exact ⟨some e, hgoes, .rfl _⟩
  | ok v =>
    obtain ⟨rfl, hgoes⟩ := (goes_of_data_ok hdata).of_pure h₁
    exact ⟨none, hgoes, .rfl _⟩

theorem goes_of_datacenter {name : String} {r : Result Datacenter}
    (h : (x.datacenter name).Solo (ClientState.world server) s es r s') :
    ∃ e, Goes x s es e s' ∧ Shows e (Session.error? (.getDatacenter name) r) := by
  unfold Client.datacenter at h
  obtain ⟨fs, v, t, gs, hlist, h₁, rfl⟩ := solo_bind_iff.mp h
  obtain ⟨e, hgoes, hshows⟩ := goes_of_datacenters hlist
  cases v with
  | error e =>
    obtain ⟨rfl, hgoes⟩ := hgoes.of_pure h₁
    exact ⟨_, hgoes, hshows⟩
  | ok ds =>
    obtain rfl := hshows.eq_none
    refine ⟨none, ?_⟩
    dsimp only at h₁
    split at h₁
    · obtain ⟨rfl, hgoes⟩ := hgoes.of_pure h₁
      exact ⟨hgoes, .rfl _⟩
    · obtain ⟨rfl, hgoes⟩ := hgoes.of_pure h₁
      exact ⟨hgoes, shows_missing rfl⟩

theorem goes_of_machine {lookup : Lookup} {d : Datacenter} {key : String} {r : Result Machine}
    (h : (x.machine lookup d key).Solo (ClientState.world server) s es r s') :
    ∃ e, Goes x s es e s' ∧ Shows e (Session.error? (.findMachine lookup d key) r) := by
  unfold Client.machine at h
  obtain ⟨fs, v, t, gs, hdata, h₁, rfl⟩ := solo_bind_iff.mp h
  cases v with
  | error e =>
    obtain ⟨rfl, hgoes⟩ := (goes_of_data_error hdata).of_pure h₁
    exact ⟨some e, hgoes, .rfl _⟩
  | ok v =>
    refine ⟨none, ?_⟩
    dsimp only at h₁
    split at h₁
    · obtain ⟨rfl, hgoes⟩ := (goes_of_data_ok hdata).of_pure h₁
      exact ⟨hgoes, .rfl _⟩
    · obtain ⟨rfl, hgoes⟩ := (goes_of_data_ok hdata).of_pure h₁
      exact ⟨hgoes, shows_missing rfl⟩

theorem goes_of_hosts {d : Datacenter} {r : Result (List Host)}
    (h : (x.hosts d).Solo (ClientState.world server) s es r s') :
    ∃ e, Goes x s es e s' ∧ Shows e (Session.error? (.listHosts d) r) := by
  unfold Client.hosts at h
  obtain ⟨fs, v, t, gs, hdata, h₁, rfl⟩ := solo_bind_iff.mp h
  cases v with
  | error e =>
    obtain ⟨rfl, hgoes⟩ := (goes_of_data_error hdata).of_pure h₁
    exact ⟨some e, hgoes, .rfl _⟩
  | ok v =>
    obtain ⟨rfl, hgoes⟩ := (goes_of_data_ok hdata).of_pure h₁
    exact ⟨none, hgoes, .rfl _⟩

theorem goes_of_tagsOf {tags : List Tag} {targets : List (String × String)} {id : String}
    {r : Result (List Tag)}
    (h : (x.tagsOf tags targets).Solo (ClientState.world server) s es r s') :
    ∃ e, Goes x s es e s' ∧ Shows e (Session.error? (.hostTags id) r) := by
  induction targets generalizing tags s es with
  | nil =>
    obtain ⟨rfl, rfl, rfl⟩ := solo_pure_iff.mp h
    exact ⟨none, .done s', .rfl _⟩
  | cons target targets ih =>
    obtain ⟨kind, id⟩ := target
    unfold Client.tagsOf at h
    by_cases hid : id.isEmpty
    · rw [if_pos hid] at h
      exact ih h
    · rw [if_neg hid] at h
      obtain ⟨fs, v, t, gs, hdata, h₁, rfl⟩ := solo_bind_iff.mp h
      cases v with
      | error e =>
        obtain ⟨rfl, hgoes⟩ := (goes_of_data_error hdata).of_pure h₁
        exact ⟨some e, hgoes, .rfl _⟩
      | ok v =>
        obtain ⟨e, hgoes, hshows⟩ := ih h₁
        exact ⟨e, .step hdata hgoes, hshows⟩

theorem goes_of_hostTags {id : String} {r : Result (List Tag)}
    (h : (x.hostTags id).Solo (ClientState.world server) s es r s') :
    ∃ e, Goes x s es e s' ∧ Shows e (Session.error? (.hostTags id) r) := by
  unfold Client.hostTags at h
  obtain ⟨fs, v, t, gs, hdata, h₁, rfl⟩ := solo_bind_iff.mp h
  cases v with
  | error e =>
    obtain ⟨rfl, hgoes⟩ := (goes_of_data_error hdata).of_pure h₁
    exact ⟨some e, hgoes, .rfl _⟩
  | ok v =>
    cases v with
    | none =>
      obtain ⟨rfl, hgoes⟩ := (goes_of_data_ok hdata).of_pure h₁
      exact ⟨none, hgoes, shows_missing rfl⟩
    | some host =>
      obtain ⟨e, hgoes, hshows⟩ := goes_of_tagsOf h₁
      exact ⟨e, .step hdata hgoes, hshows⟩

/-- A call for data makes requests up to the first that fails. -/
theorem goes_of_answer {c : Session.Call} {r : Session.Reply c} (hc : c.wantsData = true)
    (h : (x.answer c).Solo (ClientState.world server) s es r s') :
    ∃ e, Goes x s es e s' ∧ Shows e (Session.error? c r) := by
  cases c with
  | listDatacenters => exact goes_of_datacenters h
  | getDatacenter name => exact goes_of_datacenter h
  | findMachine lookup d key => exact goes_of_machine h
  | listHosts d => exact goes_of_hosts h
  | hostTags id => exact goes_of_hostTags h
  | _ => cases hc

theorem tells_of_logout {r : Result Unit}
    (h : x.logout.Solo (ClientState.world server) s es r s') :
    Tells x es [.logout r] ∧ s'.auth = none := by
  refine ⟨?_, ?_⟩
  · have htells := Tells.logout (x := x) h.yields .nil
    rwa [List.append_nil] at htells
  · unfold Client.logout at h
    obtain ⟨auth, fs, t, htake, h₁, rfl⟩ := solo_ask_iff.mp h
    have hnone : t.auth = none := by
      obtain ⟨clock, _, hanswer⟩ := htake
      obtain ⟨-, rfl⟩ := Prod.mk.inj hanswer
      rfl
    cases auth with
    | none =>
      obtain ⟨-, -, rfl⟩ := solo_pure_iff.mp h₁
      exact hnone
    | some auth =>
      dsimp only at h₁
      split at h₁
      · obtain ⟨-, -, rfl⟩ := solo_pure_iff.mp h₁
        exact hnone
      · obtain ⟨response, gs, u, hsend, h₂, rfl⟩ := solo_ask_iff.mp h₁
        have hsteady := steady_of_answers rfl hsend
        cases response with
        | none =>
          obtain ⟨-, -, rfl⟩ := solo_pure_iff.mp h₂
          exact hsteady.auth_eq.trans hnone
        | some response =>
          obtain ⟨-, -, rfl⟩ := solo_pure_iff.mp h₂
          exact hsteady.auth_eq.trans hnone

/-- What a call does to the session can be read off its acts. -/
theorem conduct_of_answer {c : Session.Call} {r : Session.Reply c}
    (h : (x.answer c).Solo (ClientState.world server) s es r s') :
    ∃ as, Tells x es as ∧ Conduct s.auth as s'.auth := by
  cases hc : c.wantsData with
  | true =>
    obtain ⟨e, ⟨as, htells, hcourses⟩, -⟩ := goes_of_answer hc h
    exact ⟨as, htells, hcourses.conduct⟩
  | false =>
    cases c with
    | connect =>
      obtain ⟨clock, as, ra, -, htells, hopening, -, hleft⟩ := opening_of_ensure h
      rw [hleft.auth]
      exact ⟨as, htells, hopening.conduct (liveAt_eq s clock)⟩
    | logout =>
      obtain ⟨htells, hnone⟩ := tells_of_logout h
      rw [hnone]
      exact ⟨_, htells, rfl, trivial, trivial⟩
    | isConnected =>
      obtain ⟨live, fs, t, hlook, hret, rfl⟩ := solo_call_iff.mp h
      obtain ⟨rfl, rfl, rfl⟩ := solo_ret_iff.mp hret
      rw [(steady_of_answers rfl hlook).auth_eq]
      exact ⟨[], tells_aside rfl, .nil _⟩
    | updateCredentials d =>
      obtain ⟨_, fs, t, hset, hret, rfl⟩ := solo_call_iff.mp h
      obtain ⟨rfl, rfl, rfl⟩ := solo_ret_iff.mp hret
      have hauth : s'.auth = s.auth := by
        obtain ⟨clock, _, hanswer⟩ := hset
        obtain ⟨-, rfl⟩ := Prod.mk.inj hanswer
        rfl
      rw [hauth]
      exact ⟨[], tells_aside rfl, .nil _⟩
    | _ => cases hc

/-! ## Histories -/

theorem History.conduct {ds : List Deed} (h : History x server s ds s') :
    ∃ as, Tells x (ds.flatMap (·.exchanges)) as ∧ Conduct s.auth as s'.auth := by
  induction h with
  | nil => exact ⟨[], .nil, .nil _⟩
  | snoc _ hc ih =>
    obtain ⟨as, htells, hconduct⟩ := ih
    obtain ⟨bs, htells', hconduct'⟩ := conduct_of_answer hc
    refine ⟨as ++ bs, ?_, hconduct.append hconduct'⟩
    rw [List.flatMap_append, List.flatMap_singleton]
    exact htells.append htells'

/-! ## What the last response says -/

theorem judged_judgeData (name : String) (read : Json → Option α) (r : Option Response) :
    Judged read r (judgeData name read r) := by
  cases r with
  | none => exact .lost _
  | some y =>
    by_cases habsent : y.status = 404
    · rw [judgeData, if_pos habsent]
      exact .absent habsent
    by_cases hrefused : y.status = 401
    · rw [judgeData, if_neg habsent, if_pos hrefused]
      exact .refused hrefused _
    cases hsuccess : y.isSuccess with
    | false =>
      rw [judgeData, if_neg habsent, if_neg hrefused, if_pos (by rw [hsuccess]; rfl)]
      exact .failed habsent hrefused hsuccess _
    | true =>
      rw [judgeData, if_neg habsent, if_neg hrefused, if_neg (by rw [hsuccess]; nofun)]
      cases hread : readData read y.body with
      | none => exact .unreadable hsuccess hread _
      | some v => exact .read hsuccess hread

/-- Only a refusal is reported as such. -/
theorem Judged.isRefusal_of_refused {read : Json → Option α} {r : Option Response} {d : String}
    (h : Judged read r (.error (.invalidCredentials d))) : isRefusal r = true := by
  cases h with
  | refused hrefused => simp [isRefusal, hrefused]

/-- A request for data logs in if there is no live session, and once more if the session is refused. A
login that fails ends it, and otherwise the last response is its result. Calls for data make such
requests up to the first that fails.

However the calls on the session follow one another, the session is that of the last login, if it has
succeeded and there was no logout since, and every request carries the token of the session at its
time. -/
theorem session_follows_acts (x : Client) (server : Server σ) :
    (∀ {α : Type} (read : Json → Option α) path query (s : ClientState σ) es v s',
      (x.data read path query).Solo (ClientState.world server) s es v s' →
        ∃ clock as, s.clock ≤ clock ∧ Tells x es as ∧
          Course x s.credentials read path query (s.liveAt clock) as v s'.auth) ∧
    (∀ {α : Type} (read : Json → Option α) r, Judged read r (judgeData x.server read r)) ∧
    (∀ (s : ClientState σ) c es r s', c.wantsData = true →
      (x.answer c).Solo (ClientState.world server) s es r s' →
        ∃ as e, Tells x es as ∧ Courses x s as e s' ∧ Shows e (Session.error? c r)) ∧
    ∀ credentials seconds state ds s,
      History x server (ClientState.start credentials seconds state) ds s →
        ∃ as, Tells x (ds.flatMap (·.exchanges)) as ∧
          (∀ a, s.auth = some a ↔ LoggedIn as a) ∧
          (∀ c a, .login c (.ok a) ∈ as → a.user = c.username) ∧
          ∀ before q r after, as = before ++ .get q r :: after →
            ∃ a, LoggedIn before a ∧ q.authorization = some a.token := by
  refine ⟨fun read path query s es v s' h => ?_, fun read r => ?_, fun s c es r s' hc h => ?_,
    fun credentials seconds state ds s h => ?_⟩
  · obtain ⟨clock, as, hclock, htells, hcourse, -⟩ := course_of_data h
    exact ⟨clock, as, hclock, htells, hcourse⟩
  · exact judged_judgeData x.server read r
  · obtain ⟨e, ⟨as, htells, hcourses⟩, hshows⟩ := goes_of_answer hc h
    exact ⟨as, e, htells, hcourses, hshows⟩
  · obtain ⟨as, htells, hhold, hbear⟩ := h.conduct
    have hheld : held as = s.auth := hhold
    refine ⟨as, htells, fun a => ?_, fun c a ha => htells.user ha, ?_⟩
    · rw [← hheld, held_eq_some_iff]
    · rintro before q r after rfl
      obtain ⟨-, ⟨a, ha, htoken⟩, -⟩ := bear_append_iff.mp hbear
      exact ⟨a, held_eq_some_iff.mp ha, htoken⟩

/-- A client that holds a token that is refused renews its session when it wants data. A client that
has no session yet is left with the one of its login. -/
theorem session_follows_acts_desk :
    (∃ es v s', (deskClient.data listing.read listing.path listing.query).Solo
        (ClientState.world desk) visitor es v s' ∧
      ∃ clock as, visitor.clock ≤ clock ∧ Tells deskClient es as ∧
        Course deskClient visitor.credentials listing.read listing.path listing.query
          (visitor.liveAt clock) as v s'.auth) ∧
    (∃ es r s', (deskClient.answer .listDatacenters).Solo (ClientState.world desk) visitor es r s' ∧
      ∃ as e, Tells deskClient es as ∧ Courses deskClient visitor as e s' ∧
        Shows e (Session.error? .listDatacenters r)) ∧
    ∃ ds s, History deskClient desk (ClientState.start ⟨"admin", "secret"⟩ 60 false) ds s ∧
      ∃ as, Tells deskClient (ds.flatMap (·.exchanges)) as ∧ LoggedIn as ⟨"t-2", "admin"⟩ := by
  obtain ⟨hdata, -, hcall, hhistory⟩ := session_follows_acts deskClient desk
  refine ⟨?_, ?_, ?_⟩
  · obtain ⟨es, hes⟩ := exists_solo_run (w := ClientState.world desk) (answers_handle desk)
      (deskClient.data listing.read listing.path listing.query) visitor
    exact ⟨es, _, _, hes, hdata _ _ _ _ _ _ _ hes⟩
  · obtain ⟨es, hes⟩ := exists_solo_run (w := ClientState.world desk) (answers_handle desk)
      (deskClient.answer .listDatacenters) visitor
    exact ⟨es, _, _, hes, hcall _ _ _ _ _ rfl hes⟩
  · obtain ⟨es, hes⟩ := exists_solo_run (w := ClientState.world desk) (answers_handle desk)
      (deskClient.answer .listDatacenters) (ClientState.start ⟨"admin", "secret"⟩ 60 false)
    have hbegin : History deskClient desk (ClientState.start ⟨"admin", "secret"⟩ 60 false) []
        (ClientState.start ⟨"admin", "secret"⟩ 60 false) := .nil _
    have hrun := hbegin.snoc hes
    obtain ⟨as, htells, hauth, -⟩ := hhistory _ _ _ _ _ hrun
    exact ⟨_, _, hrun, as, htells, (hauth _).mp (by decide +kernel)⟩

end NodeAtlas.Http
