import NodeAtlas.Proofs.Http.Answers
import NodeAtlas.Proofs.Http.Calls
import NodeAtlas.Proofs.Http.Heads
import NodeAtlas.Proofs.Http.SingleFlight
import NodeAtlas.Protocol.Paths

/-!
# Tokens that are sent back

A client holds no token but those that its logins have accepted, and it sends no other. Every request that
it makes can therefore be written: a transport that refuses requests with fields that cannot be written
makes no difference to it.
-/

namespace NodeAtlas.Http

open Protocol Interleaving NodeAtlas.Json NodeAtlas.Text

variable {σ α : Type} {server carrier : Server σ} {x : Client}

/-! ## Rules for tokens -/

/-- All tokens of the call were accepted. -/
def Call.Bears : Call → Prop
  | .send q => ∀ token, q.authorization = some token → validateToken token = .ok ()
  | .setAuth a => ∀ b, a = some b → validateToken b.token = .ok ()
  | _ => True

/-- The token that the reply brings, if it brings one, was accepted. -/
def Brings : interface.Exchange → Prop
  | ⟨.auth, a⟩ => ∀ b : Auth, a = some b → validateToken b.token = .ok ()
  | ⟨.takeAuth, a⟩ => ∀ b : Auth, a = some b → validateToken b.token = .ok ()
  | _ => True

/-- Who gets only tokens that were accepted uses no other, whoever has the lock. -/
def vetting : Discipline interface ⟨fun _ => false, fun _ => false⟩ Unit where
  allows _ c := c.Bears
  leads _ x _ := Brings x
  holds _ := False
  not_holds_of_takes _ _ := id
  holds_of_takes h _ := Bool.noConfusion h
  not_holds_of_gives _ _ _ := id
  holds_iff _ _ _ := .rfl

/-- The protocol uses only tokens that were accepted. -/
abbrev Vets (p : Protocol interface α) : Prop := p.Keeps vetting (fun _ _ => True) ()

theorem validateToken_of_judgeLogin {c : Credentials} {r : Response} {a : Auth}
    (h : judgeLogin c r = .ok a) : validateToken a.token = .ok () := by
  unfold judgeLogin at h
  split at h
  · unfold grant at h
    split at h
    · cases h
    · split at h
      · cases h
      · rename_i hvalid
        cases h
        exact hvalid
  · split_ifs at h

/-- A login succeeds only with a token that it has accepted. -/
theorem validateToken_of_login {c : Credentials} {es : List interface.Exchange} {a : Auth}
    (h : (x.login c).Yields es (.ok a)) : validateToken a.token = .ok () := by
  unfold Client.login at h
  split at h
  · cases (yields_pure_iff.mp h).2
  · cases (yields_pure_iff.mp h).2
  · obtain ⟨r, fs, h, -⟩ := yields_call_iff.mp h
    cases r with
    | none => cases (yields_pure_iff.mp h).2
    | some r => exact validateToken_of_judgeLogin (yields_pure_iff.mp h).2.symm

theorem keeps_login (c : Credentials) : (x.login c).Keeps vetting
    (fun r _ => ∀ a, r = .ok a → validateToken a.token = .ok ()) () := by
  unfold Client.login
  split
  · exact nofun
  · exact nofun
  · rw [keeps_ask_bind_iff]
    refine ⟨nofun, fun r _ _ => ?_⟩
    cases r with
    | none => exact nofun
    | some r => exact fun a h => validateToken_of_judgeLogin h

theorem vets_refresh : Vets x.refresh := by
  unfold Client.refresh
  rw [Vets, keeps_ask_bind_iff]
  refine ⟨trivial, fun c _ _ => ?_⟩
  rw [keeps_bind_iff]
  refine (keeps_login c).mono fun r _ hr => ?_
  cases r with
  | ok a =>
    rw [keeps_ask_bind_iff]
    refine ⟨?_, fun _ _ _ => trivial⟩
    rintro b hb
    cases hb
    exact hr a rfl
  | error e =>
    rw [keeps_ask_bind_iff]
    exact ⟨nofun, fun _ _ _ => trivial⟩

theorem vets_unlock (r : α) : Vets (do ask .unlock; return r) := by
  rw [Vets, keeps_ask_bind_iff]
  exact ⟨trivial, fun _ _ _ => trivial⟩

theorem vets_ensure : Vets x.ensure := by
  unfold Client.ensure
  rw [Vets, keeps_ask_bind_iff]
  refine ⟨trivial, fun live _ _ => ?_⟩
  cases live with
  | true => trivial
  | false =>
    simp only [Bool.false_eq_true, if_false]
    rw [keeps_ask_bind_iff]
    refine ⟨trivial, fun _ _ _ => ?_⟩
    rw [keeps_ask_bind_iff]
    refine ⟨trivial, fun live _ _ => ?_⟩
    cases live with
    | true => exact vets_unlock _
    | false =>
      simp only [Bool.false_eq_true, if_false]
      rw [keeps_bind_iff]
      exact vets_refresh.mono fun r _ _ => vets_unlock r

theorem keeps_currentToken : currentToken.Keeps vetting
    (fun token _ => ∀ t, token = some t → validateToken t = .ok ()) () := by
  unfold currentToken
  rw [keeps_ask_bind_iff]
  refine ⟨trivial, fun a _ ha => ?_⟩
  intro t ht
  obtain ⟨b, hb, rfl⟩ := Option.map_eq_some_iff.mp ht
  exact ha b hb

theorem vets_relogin (rejected : Option String) : Vets (x.relogin rejected) := by
  unfold Client.relogin
  rw [Vets, keeps_ask_bind_iff]
  refine ⟨trivial, fun _ _ _ => ?_⟩
  rw [keeps_bind_iff]
  refine keeps_currentToken.mono fun current _ _ => ?_
  split
  · exact vets_unlock _
  · rw [keeps_bind_iff]
    exact vets_refresh.mono fun r _ _ => vets_unlock r

theorem vets_logout : Vets x.logout := by
  unfold Client.logout
  rw [Vets, keeps_ask_bind_iff]
  refine ⟨trivial, fun a _ ha => ?_⟩
  cases a with
  | none => trivial
  | some a =>
    simp only
    split
    · trivial
    · rw [keeps_ask_bind_iff]
      refine ⟨?_, fun r _ _ => ?_⟩
      · intro token htoken
        cases htoken
        exact ha a rfl
      · cases r <;> trivial

theorem vets_data {β : Type} (read : Json → Option β) (path : String)
    (query : List (String × String)) : Vets (x.data read path query) := by
  have hget : ∀ url {token : Option String}, (∀ t, token = some t → validateToken t = .ok ()) →
      Vets (get url query token) := fun url token htoken => ⟨htoken, fun _ _ _ => trivial⟩
  unfold Client.data
  rw [Vets, keeps_bind_iff]
  refine vets_ensure.mono fun r _ _ => ?_
  cases r with
  | error e => trivial
  | ok _ =>
    simp only
    split
    · trivial
    · rename_i url _
      rw [keeps_bind_iff]
      refine keeps_currentToken.mono fun token _ htoken => ?_
      rw [keeps_bind_iff]
      refine (hget url htoken).mono fun r _ _ => ?_
      split
      · rw [keeps_bind_iff]
        refine (vets_relogin token).mono fun r _ _ => ?_
        cases r with
        | error e => trivial
        | ok _ =>
          simp only
          rw [keeps_bind_iff]
          refine keeps_currentToken.mono fun token _ htoken => ?_
          rw [keeps_bind_iff]
          exact (hget url htoken).mono fun _ _ _ => trivial
      · trivial

theorem stays_vetting (x : Client) : x.Stays vetting fun _ => True where
  ensure _ := vets_ensure
  logout _ := vets_logout
  isLive _ := ⟨trivial, fun _ _ _ => trivial⟩
  setCredentials _ _ _ := ⟨trivial, fun _ _ _ => trivial⟩
  data read path query _ _ := vets_data read path query

/-! ## Answers -/

/-- Every request that can be written gets through a transport to the server; others need not. -/
def Delivers (carrier server : Server σ) : Prop :=
  ∀ q s, q.isWritable = true → carrier q s = server q s

theorem Delivers.symm (h : Delivers carrier server) : Delivers server carrier :=
  fun q s hq => (h q s hq).symm

section Answers

variable {s s' : ClientState σ} {c : Call} {r : Reply c}

theorem brings_of_answers (hs : ∀ a, s.auth = some a → validateToken a.token = .ok ())
    (hw : (ClientState.world server).answers s c r s') : Brings ⟨c, r⟩ := by
  obtain ⟨clock, _, hanswer⟩ := hw
  cases c with
  | auth =>
    obtain ⟨rfl, -⟩ := Prod.mk.inj hanswer
    exact hs
  | takeAuth =>
    obtain ⟨rfl, -⟩ := Prod.mk.inj hanswer
    exact hs
  | _ => trivial

theorem auth_of_answers_bears (hs : ∀ a, s.auth = some a → validateToken a.token = .ok ())
    (hc : c.Bears) (hw : (ClientState.world server).answers s c r s') :
    ∀ a, s'.auth = some a → validateToken a.token = .ok () := by
  intro a ha
  by_cases hset : ∃ b, c = .setAuth b
  · obtain ⟨b, rfl⟩ := hset
    obtain ⟨hsession, -⟩ := setAuth_of_answers hw
    rw [ClientState.auth, hsession] at ha
    cases b with
    | none => cases ha
    | some b =>
      cases ha
      exact hc _ rfl
  · rcases session_of_answers (fun b hb => hset ⟨b, hb⟩) hw with hsame | hgone
    · rw [ClientState.auth, hsame] at ha
      exact hs a ha
    · rw [ClientState.auth, hgone] at ha
      cases ha

/-- A transport that delivers what can be written answers like its server. -/
theorem answers_of_carrier (hcarrier : Delivers carrier server)
    (hc : c.Bears) (hw : (ClientState.world server).answers s c r s') :
    (ClientState.world carrier).answers s c r s' := by
  obtain ⟨clock, hclock, hanswer⟩ := hw
  refine ⟨clock, hclock, ?_⟩
  cases c with
  | send q =>
    have hq : carrier q (s.wait clock hclock).server = server q (s.wait clock hclock).server :=
      hcarrier q _ (isWritable_of_validateToken hc)
    rw [ClientState.answer, hq]
    exact hanswer
  | _ => exact hanswer

end Answers

/-! ## Runs -/

/-- The session has a token that was accepted, and so have all that callers will set or send. -/
structure Vetted (s : Interleaving interface α (ClientState σ)) : Prop where
  session : ∀ a, s.world.auth = some a → validateToken a.token = .ok ()
  threads : ∀ p, some p ∈ s.threads → Vets p

namespace Vetted

variable {s t : Interleaving interface α (ClientState.world server).State} {e : Event interface}
  {es : List (Event interface)}

theorem start {w : ClientState σ} (hw : ∀ a, w.auth = some a → validateToken a.token = .ok ())
    (x : Client) (ps : List (Protocol Session.interface α)) :
    Vetted (start w (ps.map (·.interpret x.answer))) where
  session := hw
  threads p hp := by
    obtain ⟨q, hq, heq⟩ := List.mem_map.mp hp
    obtain rfl := Option.some.inj heq
    obtain ⟨p, -, rfl⟩ := List.mem_map.mp hq
    exact (stays_vetting x).interpret trivial p

theorem bears (h : Vetted s) {i : Nat} {c : Call} {next : Reply c → Protocol interface α}
    (hi : s.threads[i]? = some (some (.call c next))) : c.Bears :=
  (h.threads _ (List.mem_of_getElem? hi)).1

/-- What a caller gets to know comes from the session, and what it sets there was accepted. -/
theorem step (h : Vetted s) (hstep : Step turns (ClientState.world server) s e t) : Vetted t := by
  cases hstep with
  | answered hi hw _ =>
    refine ⟨auth_of_answers_bears h.session (h.bears hi) hw, fun p hp => ?_⟩
    rcases List.mem_or_eq_of_mem_set hp with hp | hp
    · exact h.threads p hp
    · obtain rfl := Option.some.inj hp
      exact (h.threads _ (List.mem_of_getElem? hi)).2 _ () (brings_of_answers h.session hw)
  | abandoned hi =>
    refine ⟨h.session, fun p hp => ?_⟩
    rcases List.mem_or_eq_of_mem_set hp with hp | hp
    · exact h.threads p hp
    · cases hp

theorem steps (h : Vetted s) (hs : Steps turns (ClientState.world server) s es t) : Vetted t := by
  induction hs with
  | refl => exact h
  | tail _ hstep ih => exact ih.step hstep

/-- All tokens that are sent in a run were accepted. -/
theorem bears_of_mem (h : Vetted s) (hs : Steps turns (ClientState.world server) s es t) {i : Nat}
    {c : Call} {r : Reply c} (hmem : .answered i ⟨c, r⟩ ∈ es) : c.Bears := by
  induction hs with
  | refl => cases hmem
  | tail hs hstep ih =>
    rcases List.mem_append.mp hmem with hmem | hmem
    · exact ih hmem
    · obtain rfl := List.mem_singleton.mp hmem
      cases hstep with
      | answered hi _ _ => exact (h.steps hs).bears hi

theorem steps_of_carrier (hcarrier : Delivers carrier server)
    (h : Vetted s) (hs : Steps turns (ClientState.world server) s es t) :
    Steps turns (ClientState.world carrier) s es t := by
  induction hs with
  | refl => exact .refl _
  | tail hs hstep ih =>
    refine .tail ih ?_
    cases hstep with
    | answered hi hw hlock =>
      exact .answered hi (answers_of_carrier hcarrier ((h.steps hs).bears hi) hw) hlock
    | abandoned hi => exact .abandoned hi

end Vetted

/-- Every token that a login accepts can be sent back. None of its bytes means anything in a head, so that
a request with it can be written, and its fields are read back as they are, whatever stands beside and
behind them. Clients send no other tokens: whatever callers do with a session, a transport that delivers
what can be written makes no difference to them. -/
theorem tokens_sent_back (x : Client) (hcarrier : Delivers carrier server) {w : ClientState σ}
    (hw : ∀ a, w.auth = some a → validateToken a.token = .ok ())
    (ps : List (Protocol Session.interface α)) :
    (∀ c es a, (x.login c).Yields es (.ok a) → validateToken a.token = .ok ()) ∧
    (∀ token, validateToken token = .ok () → ∀ b ∈ bytes token, 0x21 ≤ b ∧ b ≠ 0x7f) ∧
    (∀ (q : Request) token, q.authorization = some token → validateToken token = .ok () →
      q.isWritable = true ∧ ∀ before after rest,
        (∀ f ∈ before ++ after, f.isLegal = true ∧ f.isStripped = true) →
          readHead (writeHead (before ++ q.fields ++ after) ++ rest) =
            some (before ++ q.fields ++ after, rest)) ∧
    ∀ es t,
      (Steps turns (ClientState.world carrier) (start w (ps.map (·.interpret x.answer))) es t ↔
        Steps turns (ClientState.world server) (start w (ps.map (·.interpret x.answer))) es t) ∧
      (Steps turns (ClientState.world carrier) (start w (ps.map (·.interpret x.answer))) es t →
        ∀ i q r, .answered i ⟨.send q, r⟩ ∈ es → q.isWritable = true ∧
          ∀ token, q.authorization = some token → validateToken token = .ok ()) := by
  have hvetted := Vetted.start hw x ps
  refine ⟨fun c es a h => validateToken_of_login h, fun token h => byte_bounds h, ?_, ?_⟩
  · intro q token htoken hvalid
    have haccepted : ∀ t, q.authorization = some t → validateToken t = .ok () := by
      intro t ht
      rw [htoken] at ht
      cases ht
      exact hvalid
    refine ⟨isWritable_of_validateToken haccepted, fun before after rest hbeside => ?_⟩
    refine readHead_writeHead (fun f hf => ?_) rest
    rw [List.append_assoc, List.mem_append, List.mem_append] at hf
    rcases hf with hf | hf | hf
    · exact hbeside f (List.mem_append_left _ hf)
    · exact fields_of_validateToken haccepted f hf
    · exact hbeside f (List.mem_append_right _ hf)
  · intro es t
    refine ⟨⟨?_, ?_⟩, fun hs i q r hmem => ?_⟩
    · exact hvetted.steps_of_carrier hcarrier.symm
    · exact hvetted.steps_of_carrier hcarrier
    · have haccepted := hvetted.bears_of_mem hs hmem
      exact ⟨isWritable_of_validateToken haccepted, haccepted⟩

/-- A transport that loses the requests that cannot be written. -/
def strict (server : Server σ) : Server σ := fun q s =>
  if q.isWritable then server q s else (none, s)

/-- A visitor whose token is beyond ASCII. -/
def foreigner : ClientState Bool := visitor.hold (some ⟨"törn-1", "admin"⟩)

/-- A caller that wants to log out. -/
def leaver : List (Protocol Session.interface (Result Unit)) := [.call .logout .ret]

/-- A logout goes through a transport that loses what cannot be written, and its fields are read back. -/
theorem tokens_sent_back_foreigner :
    ∃ es t q r, Steps turns (ClientState.world (strict desk))
        (start foreigner (leaver.map (·.interpret deskClient.answer))) es t ∧
      .answered 0 ⟨.send q, some r⟩ ∈ es ∧ q.authorization = some "törn-1" ∧
      readHead (writeHead q.fields) = some (q.fields, []) := by
  have hdelivers : Delivers (strict desk) desk := fun q s hq => if_pos hq
  have hvalid : validateToken "törn-1" = .ok () := by decide
  have hheld : ∀ a, foreigner.auth = some a → validateToken a.token = .ok () := by
    intro a ha
    cases ha
    exact hvalid
  obtain ⟨-, -, hheads, hruns⟩ := tokens_sent_back deskClient hdelivers hheld leaver
  -- The session is taken away, then its token is sent.
  have hsent : ∃ es t q r, Steps turns (ClientState.world desk)
        (start foreigner (leaver.map (·.interpret deskClient.answer))) es t ∧
      .answered 0 ⟨.send q, some r⟩ ∈ es ∧ q.authorization = some "törn-1" :=
    ⟨_, _, _, _, .tail (.tail (.refl _)
      (.answered (i := 0) rfl (answers_handle desk _ _) nofun))
      (.answered (i := 0) rfl (answers_handle desk _ _) nofun),
      List.mem_append_right _ List.mem_cons_self, rfl⟩
  obtain ⟨es, t, q, r, hrun, hmem, htoken⟩ := hsent
  obtain ⟨-, hread⟩ := hheads q _ htoken hvalid
  have hhead := hread [] [] [] nofun
  rw [List.nil_append, List.append_nil, List.append_nil] at hhead
  exact ⟨es, t, q, r, (hruns es t).1.mpr hrun, hmem, htoken, hhead⟩

end NodeAtlas.Http
