import NodeAtlas.Http.Fleet
import NodeAtlas.Proofs.Http.Account
import NodeAtlas.Proofs.Http.FirstLogin

/-!
# Shutdown

A pool over HTTP closes its sessions one endpoint after another. Whatever the servers say to that, each of
them is told of the end of its session once, and no session is left.
-/

namespace NodeAtlas.Http

open Protocol

variable {σ α β : Type}

/-! ## Single clients -/

section Client

variable {server : Server σ} {x : Client} {s s' : ClientState σ} {es : List interface.Exchange}
  {url : Net.Url}

theorem exists_logoutUrl (x : Client) : ∃ url, x.url "api/v1/logout" = .ok url :=
  exists_url ⟨_, rfl⟩

/-- Logs out of a live session, whether or not that succeeds. -/
def closing (x : Client) : Protocol interface Unit := do
  if ← x.answer .isConnected then
    let _ ← x.answer .logout

theorem takeAuth_of_answers {a : Option Auth}
    (hw : (ClientState.world server).answers s .takeAuth a s') :
    a = s.auth ∧ s'.session = none ∧ s.clock ≤ s'.clock := by
  obtain ⟨clock, hclock, hanswer⟩ := hw
  obtain ⟨rfl, rfl⟩ := Prod.mk.inj hanswer
  exact ⟨rfl, rfl, hclock⟩

/-- A client that held a live session has sent its farewell and nothing else, any other client has sent
nothing, and no session is live. -/
structure Parted (url : Net.Url) (s s' : ClientState σ) (qs : List Request) : Prop where
  sent : ∃ clock, s.clock ≤ clock ∧ clock ≤ s'.clock ∧
    qs = (s.liveAt clock).toList.map (farewell url)
  closed : s'.isLive = false

/-- The answer to a logout does not matter. -/
theorem solo_logout (hurl : x.url "api/v1/logout" = .ok url) {r : Result Unit}
    (h : x.logout.Solo (ClientState.world server) s es r s') :
    es.filterMap sent? = s.auth.toList.map (farewell url) ∧ s'.session = none ∧
      s.clock ≤ s'.clock := by
  unfold Client.logout at h
  -- The session is taken before the request is sent, so that it is gone whatever comes back.
  obtain ⟨a, fs, t, htake, h₁, rfl⟩ := solo_ask_iff.mp h
  obtain ⟨rfl, hnone, hclock⟩ := takeAuth_of_answers htake
  cases hauth : s.auth with
  | none =>
    rw [hauth] at h₁
    obtain ⟨rfl, -, rfl⟩ := solo_pure_iff.mp h₁
    exact ⟨rfl, hnone, hclock⟩
  | some a =>
    rw [hauth] at h₁
    simp only [hurl] at h₁
    obtain ⟨response, gs, u, hsend, h₂, rfl⟩ := solo_ask_iff.mp h₁
    have hsteady := steady_of_answers rfl hsend
    have hleft : u.session = none ∧ s.clock ≤ u.clock :=
      ⟨hsteady.session.trans hnone, Nat.le_trans hclock hsteady.clock⟩
    cases response with
    | none =>
      obtain ⟨rfl, -, rfl⟩ := solo_pure_iff.mp h₂
      exact ⟨rfl, hleft⟩
    | some y =>
      obtain ⟨rfl, -, rfl⟩ := solo_pure_iff.mp h₂
      exact ⟨rfl, hleft⟩

theorem parted_of_closing (hurl : x.url "api/v1/logout" = .ok url)
    (h : (closing x).Solo (ClientState.world server) s es () s') :
    Parted url s s' (es.filterMap sent?) := by
  unfold closing Client.answer at h
  obtain ⟨live, fs, t, hlook, h₁, rfl⟩ := solo_ask_iff.mp h
  have hlive := liveAt_of_answers hlook
  have hsteady := steady_of_answers rfl hlook
  cases live with
  | false =>
    obtain ⟨rfl, -, rfl⟩ := solo_pure_iff.mp h₁
    refine ⟨⟨s'.clock, hsteady.clock, Nat.le_refl _, ?_⟩, (isLive_of_answers hlook).symm⟩
    rw [hlive]
    rfl
  | true =>
    obtain ⟨gs, r, u, ks, hlogout, h₂, rfl⟩ := solo_bind_iff.mp h₁
    obtain ⟨rfl, -, rfl⟩ := solo_pure_iff.mp h₂
    obtain ⟨hsent, hnone, hclock⟩ := solo_logout hurl hlogout
    refine ⟨⟨t.clock, hsteady.clock, hclock, ?_⟩, isLiveAt_of_none hnone _⟩
    rw [hlive, List.append_nil, ← hsteady.auth_eq]
    exact hsent

end Client

/-! ## Fleets -/

namespace Fleet

variable {server : String → Server σ} {clients : String → Client} {w w' : String → ClientState σ}
  {es : List interface.Exchange} {tenant : String}

/-- An exchange of the client of a tenant. -/
def wire (tenant : String) (y : Http.interface.Exchange) : interface.Exchange :=
  ⟨.client tenant y.1, y.2⟩

theorem sent_wire (tenant t : String) (fs : List Http.interface.Exchange) :
    sent t (fs.map (wire tenant)) = if tenant = t then fs.filterMap sent? else [] := by
  unfold sent
  rw [List.filterMap_map]
  split
  · rename_i heq
    refine List.filterMap_congr fun y _ => ?_
    exact if_pos heq
  · rename_i hne
    refine List.filterMap_eq_nil_iff.mpr fun y _ => ?_
    exact if_neg hne

theorem sent_append (es fs : List interface.Exchange) :
    sent tenant (es ++ fs) = sent tenant es ++ sent tenant fs := List.filterMap_append

/-- What a client does in its fleet, it does with its own server, and the others are left alone. -/
theorem solo_ofClient {p : Protocol Http.interface α} {a : α}
    (h : (ofClient tenant p).Solo (world server) w es a w') :
    ∃ fs s, p.Solo (ClientState.world (server tenant)) (w tenant) fs a s ∧
      es = fs.map (wire tenant) ∧ w' = Function.update w tenant s := by
  induction p generalizing w es with
  | ret b =>
    obtain ⟨rfl, rfl, rfl⟩ := solo_ret_iff.mp h
    exact ⟨[], w' tenant, solo_ret_iff.mpr ⟨rfl, rfl, rfl⟩, rfl, (Function.update_eq_self ..).symm⟩
  | call c next ih =>
    obtain ⟨r, gs, v, ⟨t, hw, rfl⟩, hnext, rfl⟩ := solo_call_iff.mp h
    obtain ⟨fs, s, hsolo, rfl, rfl⟩ := ih r hnext
    rw [Function.update_self] at hsolo
    refine ⟨⟨c, r⟩ :: fs, s, solo_call_iff.mpr ⟨r, fs, t, hw, hsolo, rfl⟩, rfl, ?_⟩
    rw [Function.update_idem]

theorem ofPool_logoutAll_cons (clients : String → Client) (e : Endpoint) (rest : List Endpoint) :
    ofPool clients (Pool.logoutAll (e :: rest)) =
      (ofClient e.tenant (closing (clients e.tenant)) >>= fun _ =>
        ofPool clients (Pool.logoutAll rest)) := by
  rw [Pool.logoutAll]
  unfold ofPool ofClient closing Pool.onSession Pool.ask
  simp only [bind_eq, Protocol.bind, interpret, interpret_bind, bind_assoc]
  congr 1
  funext live
  cases live with
  | false => rfl
  | true =>
    rw [if_pos rfl, if_pos rfl, interpret_bind, bind_assoc]
    rfl

/-- A round of logouts parts the clients of its endpoints from their servers, also those of endpoints that
come more than once, and no others. -/
theorem solo_logoutAll {url : String → Net.Url}
    (hurl : ∀ t, (clients t).url "api/v1/logout" = .ok (url t)) {rest : List Endpoint}
    (h : (ofPool clients (Pool.logoutAll rest)).Solo (world server) w es () w') (t : String) :
    (t ∈ rest.map Endpoint.tenant → Parted (url t) (w t) (w' t) (sent t es)) ∧
      (t ∉ rest.map Endpoint.tenant → sent t es = [] ∧ w' t = w t) := by
  induction rest generalizing w es with
  | nil =>
    obtain ⟨rfl, -, rfl⟩ := solo_ret_iff.mp h
    exact ⟨nofun, fun _ => ⟨rfl, rfl⟩⟩
  | cons e rest ih =>
    rw [ofPool_logoutAll_cons] at h
    obtain ⟨xs, _, v, ys, hfirst, hrest, rfl⟩ := solo_bind_iff.mp h
    obtain ⟨fs, s, hsolo, rfl, rfl⟩ := solo_ofClient hfirst
    have hparted := parted_of_closing (hurl e.tenant) hsolo
    obtain ⟨hin, hout⟩ := ih hrest
    rw [List.map_cons, List.mem_cons, sent_append, sent_wire]
    by_cases hsame : t = e.tenant
    · subst hsame
      rw [Function.update_self] at hin hout
      rw [if_pos rfl]
      refine ⟨fun _ => ?_, fun hnot => absurd (.inl rfl) hnot⟩
      by_cases hagain : e.tenant ∈ rest.map Endpoint.tenant
      · -- The client has parted already, so that it sends nothing when its turn comes again.
        obtain ⟨⟨later, hlater, hend, hnothing⟩, hclosed⟩ := hin hagain
        obtain ⟨clock, hclock, hmiddle, hsent⟩ := hparted.sent
        rw [liveAt_eq_none hparted.closed hlater] at hnothing
        refine ⟨⟨clock, hclock, Nat.le_trans hmiddle (Nat.le_trans hlater hend), ?_⟩, hclosed⟩
        rw [hnothing, ← hsent]
        exact List.append_nil _
      · obtain ⟨hsent, hstate⟩ := hout hagain
        rw [hsent, hstate, List.append_nil]
        exact hparted
    · rw [Function.update_of_ne hsame] at hin hout
      rw [if_neg fun heq => hsame heq.symm, List.nil_append]
      exact ⟨fun hmem => hin (hmem.resolve_left hsame), fun hnot => hout fun hmem => hnot (.inr hmem)⟩

/-- A session that was closed is not connected at any later time. -/
theorem isConnected_eq_false {live : Bool} {e : Endpoint} (hclosed : (w e.tenant).isLive = false)
    (h : (ofPool clients (Pool.onSession e .isConnected)).Solo (world server) w es live w') :
    live = false := by
  have hask : ofPool clients (Pool.onSession e .isConnected) = ofClient e.tenant (Http.ask .isLive) := rfl
  rw [hask] at h
  obtain ⟨fs, s, hsolo, -, -⟩ := solo_ofClient h
  obtain ⟨r, gs, t, hw, hret, -⟩ := solo_call_iff.mp hsolo
  obtain ⟨-, rfl, -⟩ := solo_ret_iff.mp hret
  exact (isLive_of_answers hw).trans ((steady_of_answers rfl hw).isLive_eq_false hclosed)

/-- Answers every call of a fleet at once. -/
def handle (server : String → Server σ) : interface.Handler (String → ClientState σ)
  | .client tenant c, w =>
    let r := ClientState.handle (server tenant) c (w tenant)
    (r.1, Function.update w tenant r.2)
  | .secret secretRef _, w => (.error (.credentialManagerNotFound secretRef), w)
  | .lock, w => ((), w)
  | .unlock, w => ((), w)
  | .sleep _, w => ((), w)

theorem fleet_answers_handle (server : String → Server σ) (c : Call) (w : String → ClientState σ) :
    (world server).answers w c (handle server c w).1 (handle server c w).2 := by
  cases c with
  | client tenant c => exact ⟨_, answers_handle (server tenant) c (w tenant), rfl⟩
  | _ => rfl

/-- When a pool is shut down, nothing that the servers do keeps it from coming to an end. Each endpoint that
holds a live session when its turn comes is sent one request, the logout with the token of that session,
and no other endpoint is sent anything. No endpoint is connected afterwards, so that a second shutdown
sends nothing. -/
theorem shutdown (p : Pool) (clients : String → Client) (server : String → Server σ)
    (w : String → ClientState σ) :
    (∃ es w', (ofPool clients p.logout).Solo (world server) w es () w') ∧
    ∀ es w', (ofPool clients p.logout).Solo (world server) w es () w' →
      (∀ e ∈ p.list, ∃ clock url, (w e.tenant).clock ≤ clock ∧ clock ≤ (w' e.tenant).clock ∧
        (clients e.tenant).url "api/v1/logout" = .ok url ∧
        sent e.tenant es = ((w e.tenant).liveAt clock).toList.map (farewell url)) ∧
      (∀ tenant, (∀ e ∈ p.list, e.tenant ≠ tenant) → sent tenant es = [] ∧ w' tenant = w tenant) ∧
      (∀ e ∈ p.list, ∀ fs live w'',
        (ofPool clients (Pool.onSession e .isConnected)).Solo (world server) w' fs live w'' →
          live = false) ∧
      ∀ fs w'', (ofPool clients p.logout).Solo (world server) w' fs () w'' →
        ∀ tenant, sent tenant fs = [] := by
  obtain ⟨url, hurl⟩ := Classical.axiomOfChoice fun t => exists_logoutUrl (clients t)
  refine ⟨?_, fun es w' h => ?_⟩
  · obtain ⟨es, hes⟩ := exists_solo_run (w := world server) (fleet_answers_handle server)
      (ofPool clients p.logout) w
    exact ⟨es, _, hes⟩
  have hround := solo_logoutAll hurl h
  have hparted (e : Endpoint) (he : e ∈ p.list) :=
    (hround e.tenant).1 (List.mem_map_of_mem he)
  refine ⟨fun e he => ?_, fun tenant hother => ?_, fun e he fs live w'' hlook => ?_,
    fun fs w'' hagain tenant => ?_⟩
  · obtain ⟨clock, hclock, hend, hsent⟩ := (hparted e he).sent
    exact ⟨clock, url e.tenant, hclock, hend, hurl e.tenant, hsent⟩
  · refine (hround tenant).2 fun hmem => ?_
    obtain ⟨e, he, heq⟩ := List.mem_map.mp hmem
    exact hother e he heq
  · exact isConnected_eq_false (hparted e he).closed hlook
  · have hsecond := solo_logoutAll hurl hagain tenant
    by_cases hmem : tenant ∈ p.list.map Endpoint.tenant
    · obtain ⟨clock, hclock, -, hsent⟩ := (hsecond.1 hmem).sent
      rw [hsent, liveAt_eq_none ((hround tenant).1 hmem).closed hclock]
      rfl
    · exact (hsecond.2 hmem).1

/-! ## Servers that do not answer -/

/-- A server that loses every request. -/
def mute : Server Unit := fun _ s => (none, s)

/-- A pool of two endpoints. -/
def pair : Pool where
  endpoints := ((∅ : Dict Endpoint).insert "10.0.0.1"
    ⟨"10.0.0.1", "10.0.0.1", 443, ⟨"admin", "s3cret"⟩, globalSecretRef, false, [], [.ipv4]⟩).insert
      "10.0.0.2"
      ⟨"10.0.0.2", "10.0.0.2", 443, ⟨"admin", "s3cret"⟩, globalSecretRef, false, [], [.ipv4]⟩
  managers := []
  discovery := {}

/-- The first of two clients has logged in just now. -/
def parting (tenant : String) : ClientState Unit :=
  (ClientState.start ⟨"admin", "s3cret"⟩ 1800 ()).hold
    (if tenant = "10.0.0.1" then some ⟨"t-1", "admin"⟩ else none)

/-- The client that has logged in is parted from a server that does not answer, and the other one sends
nothing. -/
theorem shutdown_pair :
    ∃ es w', (ofPool (fun _ => deskClient) pair.logout).Solo (world fun _ => mute) parting es () w' ∧
      (∃ url, sent "10.0.0.1" es = [farewell url ⟨"t-1", "admin"⟩]) ∧ sent "10.0.0.2" es = [] := by
  obtain ⟨-, hparts⟩ := shutdown pair (fun _ => deskClient) (fun _ => mute) parting
  obtain ⟨es, hes⟩ := exists_solo_run (w := world fun _ => mute) (fleet_answers_handle fun _ => mute)
    (ofPool (fun _ => deskClient) pair.logout) parting
  have hend : (((ofPool (fun _ => deskClient) pair.logout).run (handle fun _ => mute) parting).2
      "10.0.0.1").clock = 3 := by
    decide +kernel
  obtain ⟨hsent, -⟩ := hparts es _ hes
  refine ⟨es, _, hes, ?_, ?_⟩
  · obtain ⟨clock, url, -, hclock, -, hfirst⟩ := hsent
      ⟨"10.0.0.1", "10.0.0.1", 443, ⟨"admin", "s3cret"⟩, globalSecretRef, false, [], [.ipv4]⟩
      List.mem_cons_self
    dsimp only at hfirst hclock
    rw [hend] at hclock
    have hsession : (parting "10.0.0.1").session = some (⟨"t-1", "admin"⟩, 0) := rfl
    have hlive : (parting "10.0.0.1").liveAt clock = some ⟨"t-1", "admin"⟩ := by
      have hage : clock - 0 ≤ 1800 * 1000000000 := by omega
      exact if_pos ((isLiveAt_iff hsession (Nat.zero_le _)).mpr hage)
    rw [hlive] at hfirst
    exact ⟨url, hfirst⟩
  · obtain ⟨clock, url, -, -, -, hsecond⟩ := hsent
      ⟨"10.0.0.2", "10.0.0.2", 443, ⟨"admin", "s3cret"⟩, globalSecretRef, false, [], [.ipv4]⟩
      (List.mem_cons_of_mem _ List.mem_cons_self)
    exact hsecond

end Fleet

end NodeAtlas.Http
