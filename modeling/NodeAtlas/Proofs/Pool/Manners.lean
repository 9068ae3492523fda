import NodeAtlas.Pool.Crowd
import NodeAtlas.Proofs.Pool.Create
import NodeAtlas.Protocol.Discipline

/-!
# How strands connect

All strands of a pool keep to the same rules. They connect only while they hold the lock, they replace
the credentials of a tenant only by those that its own manager has just given for its own server, and
they return without the lock.
-/

namespace NodeAtlas.Pool

open Protocol

/-! ## Rules -/

/-- Where a strand is on its way to a session. -/
inductive Position where
  | outside
  /-- It holds the lock. -/
  | locked
  /-- It holds the lock and credentials that a manager has given for an address. -/
  | armed (secretRef address : String) (c : Credentials)

namespace Position

/-- The lock is held. -/
def holds : Position → Prop
  | outside => False
  | locked | armed .. => True

/-- Where an exchange leads. -/
def after (g : Position) : Strand.interface.Exchange → Position
  | ⟨.pool .lock, _⟩ => locked
  | ⟨.pool .unlock, _⟩ => outside
  | ⟨.pool (.secret secretRef address), .ok c⟩ => armed secretRef address c
  | ⟨.pool (.session _ (.updateCredentials _)), _⟩ => locked
  | _ => g

end Position

/-- The call has nothing to do with connecting. -/
def Strand.Call.isCalm : Strand.Call → Bool
  | .pool (.session _ c) => match c with
    | .connect | .updateCredentials _ => false
    | _ => true
  | .pool (.sleep _) | .quest _ | .record _ | .isOver => true
  | .pool (.secret ..) | .pool .lock | .pool .unlock | .push _ => false

inductive Allowed (p : Pool) : Position → Strand.Call → Prop where
  | calm {c : Strand.Call} (hc : c.isCalm = true) : Allowed p .outside c
  /-- A task is at an endpoint of the pool. -/
  | push {e : Endpoint} (he : p.endpoint e.tenant = .ok e) : Allowed p .outside (.push e)
  | lock : Allowed p .outside (.pool .lock)
  | unlock : Allowed p .locked (.pool .unlock)
  | connect (tenant : String) : Allowed p .locked (.pool (.session tenant .connect))
  /-- The manager is registered. -/
  | secret {secretRef : String} (hmanager : p.managers.contains secretRef = true)
      (address : String) : Allowed p .locked (.pool (.secret secretRef address))
  /-- The credentials are those of the manager of the endpoint. -/
  | update {tenant : String} {e : Endpoint} (he : p.endpoint tenant = .ok e) (c : Credentials) :
      Allowed p (.armed e.secretRef e.host c) (.pool (.session tenant (.updateCredentials c)))

theorem after_of_isCalm {c : Strand.Call} (hc : c.isCalm = true) (g : Position)
    (r : Strand.Reply c) : g.after ⟨c, r⟩ = g := by
  cases c with
  | pool c =>
    cases c with
    | session tenant c =>
      cases c with
      | updateCredentials c => cases hc
      | _ => rfl
    | secret => cases hc
    | lock => cases hc
    | unlock => cases hc
    | sleep => rfl
  | push => cases hc
  | _ => rfl

theorem takes_eq_true_iff {c : Strand.Call} : Strand.turns.takes c = true ↔ c = .pool .lock := by
  cases c <;> simp [Strand.turns, turns]

theorem gives_eq_true_iff {c : Strand.Call} : Strand.turns.gives c = true ↔ c = .pool .unlock := by
  cases c <;> simp [Strand.turns, turns]

/-- The rules for strands. -/
def manners (p : Pool) : Discipline Strand.interface Strand.turns Position where
  allows := Allowed p
  leads g y g' := Allowed p g y.1 ∧ g' = g.after y
  holds := Position.holds
  not_holds_of_takes hallowed htakes := by
    obtain rfl := takes_eq_true_iff.mp htakes
    cases hallowed <;> exact id
  holds_of_takes htakes hleads := by
    obtain rfl := takes_eq_true_iff.mp htakes
    obtain ⟨-, rfl⟩ := hleads
    trivial
  not_holds_of_gives _ hgives hleads := by
    obtain rfl := gives_eq_true_iff.mp hgives
    obtain ⟨-, rfl⟩ := hleads
    exact id
  holds_iff {g c r g'} htakes hgives hleads := by
    obtain ⟨hallowed, rfl⟩ := hleads
    cases hallowed with
    | calm hc => rw [after_of_isCalm hc]
    | push => rfl
    | lock => cases htakes
    | unlock => cases hgives
    | connect => rfl
    | secret =>
      cases r with
      | error err => rfl
      | ok c => exact .rfl
    | update => exact .rfl

theorem keeps_ask_iff {p : Pool} {α : Type} {Q : α → Position → Prop} {c : Strand.Call}
    {f : Strand.Reply c → Protocol Strand.interface α} {g : Position} :
    (Strand.ask c >>= f).Keeps (manners p) Q g ↔
      Allowed p g c ∧ ∀ r, (f r).Keeps (manners p) Q (g.after ⟨c, r⟩) := by
  constructor
  · rintro ⟨hallowed, hnext⟩
    exact ⟨hallowed, fun r => hnext r _ ⟨hallowed, rfl⟩⟩
  · rintro ⟨hallowed, hnext⟩
    refine ⟨hallowed, ?_⟩
    rintro r g' ⟨-, rfl⟩
    exact hnext r

theorem nonempty_reply (c : Strand.Call) : Nonempty (Strand.Reply c) := by
  cases c with
  | pool c =>
    cases c with
    | session tenant c =>
      cases c with
      | isConnected => exact ⟨false⟩
      | updateCredentials => exact ⟨()⟩
      | _ => exact ⟨.error (.connection "")⟩
    | secret => exact ⟨.error (.connection "")⟩
    | _ => exact ⟨()⟩
  | quest => exact ⟨.exhausted⟩
  | push => exact ⟨true⟩
  | record => exact ⟨()⟩
  | isOver => exact ⟨true⟩

/-- A protocol that keeps to the rules and returns without the lock holds it where its position says
so. -/
theorem holds_iff_of_keeps {p : Pool} {α : Type} {q : Protocol Strand.interface α} {g : Position}
    (h : q.Keeps (manners p) (fun _ g => g = .outside) g) : q.Holds Strand.turns ↔ g.holds := by
  induction q generalizing g with
  | ret a =>
    obtain rfl : g = .outside := h
    exact ⟨nofun, False.elim⟩
  | call c next ih =>
    obtain ⟨hallowed, hnext⟩ := h
    by_cases hgives : Strand.turns.gives c = true
    · obtain rfl := gives_eq_true_iff.mp hgives
      cases hallowed with
      | calm hc => cases hc
      | unlock => exact ⟨fun _ => trivial, fun _ => .here rfl⟩
    by_cases htakes : Strand.turns.takes c = true
    · obtain rfl := takes_eq_true_iff.mp htakes
      cases hallowed with
      | calm hc => cases hc
      | lock =>
        refine ⟨fun h => ?_, False.elim⟩
        cases h with
        | here h => exact absurd h hgives
        | later h => cases h
    -- The lock neither comes nor goes with this call, whatever is replied.
    rw [Bool.not_eq_true] at hgives htakes
    have hsame (r : Strand.Reply c) : (g.after ⟨c, r⟩).holds ↔ g.holds :=
      (manners p).holds_iff htakes hgives ⟨hallowed, rfl⟩
    have hrest (r : Strand.Reply c) := ih r (hnext r _ ⟨hallowed, rfl⟩)
    constructor
    · intro h
      cases h with
      | here h => rw [hgives] at h; cases h
      | later _ _ r h => exact (hsame r).mp ((hrest r).mp h)
    · intro h
      obtain ⟨r⟩ := nonempty_reply c
      exact .later htakes hgives r ((hrest r).mpr ((hsame r).mpr h))

/-! ## Tidy protocols -/

/-- The protocol keeps to the rules, and begins and ends without the lock. -/
def Tidy (p : Pool) {α : Type} (q : Protocol Strand.interface α) : Prop :=
  q.Keeps (manners p) (fun _ g => g = .outside) .outside

section

variable {p : Pool} {α β T : Type}

theorem tidy_pure (a : α) : Tidy p (pure a) := rfl

theorem Tidy.bind {q : Protocol Strand.interface α} {f : α → Protocol Strand.interface β}
    (hq : Tidy p q) (hf : ∀ a, Tidy p (f a)) : Tidy p (q >>= f) := by
  refine keeps_bind_iff.mpr (Keeps.mono hq ?_)
  rintro a g rfl
  exact hf a

theorem Tidy.discard {q : Protocol Strand.interface α} (hq : Tidy p q) : Tidy p q.discard :=
  hq.bind fun _ => tidy_pure ()

theorem tidy_ask {c : Strand.Call} (hc : c.isCalm = true) : Tidy p (Strand.ask c) := by
  refine ⟨.calm hc, ?_⟩
  rintro r g' ⟨-, rfl⟩
  exact after_of_isCalm hc .outside r

theorem ofPool_bind (q : Protocol interface α) (f : α → Protocol interface β) :
    Strand.ofPool (q >>= f) = Strand.ofPool q >>= fun a => Strand.ofPool (f a) := interpret_bind _ q f

theorem ofPool_onSession (e : Endpoint) (c : Session.Call) :
    Strand.ofPool (onSession e c) = Strand.ask (.pool (.session e.tenant c)) := rfl

theorem ofPool_ask (c : Call) : Strand.ofPool (ask c) = Strand.ask (.pool c) := rfl

theorem tidy_ofPool_bind {q : Protocol interface α} {f : α → Protocol interface β}
    (hq : Tidy p (Strand.ofPool q)) (hf : ∀ a, Tidy p (Strand.ofPool (f a))) :
    Tidy p (Strand.ofPool (q >>= f)) := by
  rw [ofPool_bind]
  exact hq.bind hf

/-- A call on a session that has nothing to do with connecting. -/
theorem tidy_onSession {e : Endpoint} {c : Session.Call}
    (hc : (Strand.Call.pool (.session e.tenant c)).isCalm = true) :
    Tidy p (Strand.ofPool (onSession e c)) := tidy_ask hc

/-! ## Connecting -/

variable {e : Endpoint}

theorem keeps_refresh (he : p.endpoint e.tenant = .ok e) :
    (Strand.ofPool (p.refresh e)).Keeps (manners p) (fun _ g => g = .locked) .locked := by
  unfold refresh
  split
  · rfl
  · rename_i hmanager
    rw [ofPool_bind, ofPool_ask, keeps_ask_iff]
    refine ⟨.secret (by simpa using hmanager) _, fun r => ?_⟩
    cases r with
    | error err => rfl
    | ok c =>
      rw [ofPool_bind, ofPool_onSession, keeps_ask_iff]
      refine ⟨.update he c, fun _ => ⟨.connect _, ?_⟩⟩
      rintro r g' ⟨-, rfl⟩
      rfl

theorem tidy_connectEndpoint (he : p.endpoint e.tenant = .ok e) :
    Tidy p (Strand.ofPool (p.connectEndpoint e)) := by
  unfold connectEndpoint Tidy
  rw [ofPool_bind, ofPool_ask, keeps_ask_iff]
  refine ⟨.lock, fun _ => ?_⟩
  rw [ofPool_bind, ofPool_onSession, keeps_ask_iff]
  refine ⟨.connect _, fun r => ?_⟩
  have hend (r : Result Unit) : (Strand.ofPool (do ask .unlock; return r)).Keeps (manners p)
      (fun _ g => g = .outside) .locked := by
    rw [ofPool_bind, ofPool_ask, keeps_ask_iff]
    exact ⟨.unlock, fun _ => rfl⟩
  dsimp only
  split
  · rw [ofPool_bind, keeps_bind_iff]
    refine (keeps_refresh he).mono ?_
    rintro r g rfl
    exact hend r
  · exact hend _

theorem tidy_retry (he : p.endpoint e.tenant = .ok e) (attempts : Nat) :
    Tidy p (Strand.ofPool (p.retry e attempts)) := by
  induction attempts with
  | zero => exact tidy_connectEndpoint he
  | succ attempts ih =>
    unfold retry
    refine tidy_ofPool_bind (tidy_connectEndpoint he) fun r => ?_
    cases r with
    | ok u => exact tidy_pure _
    | error err =>
      dsimp only
      split
      · exact tidy_ofPool_bind (tidy_ask rfl) fun _ => ih
      · exact tidy_pure _

theorem tidy_connectWithRetry (he : p.endpoint e.tenant = .ok e) :
    Tidy p (Strand.ofPool (p.connectWithRetry e)) := tidy_retry he _

/-- All of the endpoints belong to the pool. -/
def Owns (p : Pool) (es : List Endpoint) : Prop := ∀ e ∈ es, p.endpoint e.tenant = .ok e

variable {es : List Endpoint}

theorem tidy_connectAll (hes : Owns p es) : Tidy p (Strand.ofPool (p.connectAll es)) := by
  induction es with
  | nil => exact tidy_pure _
  | cons e es ih =>
    unfold connectAll
    refine tidy_ofPool_bind (tidy_connectEndpoint (hes e List.mem_cons_self)) fun r => ?_
    cases r with
    | error err => exact tidy_pure _
    | ok u => exact ih fun e' he' => hes e' (List.mem_cons_of_mem _ he')

theorem tidy_connect (hkeyed : Keyed p.endpoints) (tenant : String) :
    Tidy p (Strand.ofPool (p.connect tenant)) := by
  unfold connect
  split
  · exact tidy_pure _
  · rename_i e he
    obtain rfl := hkeyed.endpoint_eq he
    exact tidy_connectEndpoint he

theorem tidy_logoutAll (es : List Endpoint) : Tidy p (Strand.ofPool (logoutAll es)) := by
  induction es with
  | nil => exact tidy_pure _
  | cons e es ih =>
    unfold logoutAll
    refine tidy_ofPool_bind (tidy_onSession rfl) fun live => ?_
    cases live with
    | true =>
      rw [if_pos rfl]
      exact tidy_ofPool_bind (tidy_onSession rfl) fun _ => ih
    | false => exact ih

theorem tidy_lookupAll (s : Scan) (names : List String) :
    Tidy p (Strand.ofPool (lookupAll e s names)) := by
  induction names generalizing s with
  | nil => exact tidy_pure _
  | cons name names ih =>
    unfold lookupAll
    refine tidy_ofPool_bind (tidy_onSession rfl) fun r => ?_
    cases r with
    | ok d => exact ih _
    | error err => exact ih _

theorem tidy_scan (e : Endpoint) : Tidy p (Strand.ofPool (scan e)) := by
  unfold scan
  split
  · refine tidy_ofPool_bind (tidy_onSession rfl) fun r => ?_
    cases r with
    | ok ds => exact tidy_pure _
    | error err => exact tidy_pure _
  · exact tidy_lookupAll _ _

theorem tidy_placesOf (hes : Owns p es) : Tidy p (Strand.ofPool (p.placesOf es)) := by
  induction es with
  | nil => exact tidy_pure _
  | cons e es ih =>
    have hrest := ih fun e' he' => hes e' (List.mem_cons_of_mem _ he')
    unfold placesOf
    refine tidy_ofPool_bind (tidy_connectWithRetry (hes e List.mem_cons_self)) fun r => ?_
    cases r with
    | error err => exact hrest
    | ok u =>
      dsimp only
      refine tidy_ofPool_bind (tidy_scan e) fun s => ?_
      exact tidy_ofPool_bind hrest fun rest => tidy_pure _

/-! ## Work on tasks -/

theorem tidy_findAt {lookup : Lookup} {key : String} {s : Site}
    (hs : p.endpoint s.endpoint.tenant = .ok s.endpoint) :
    Tidy p (Strand.ofPool (p.findAt lookup key s)) := by
  have hlookUp : Tidy p (Strand.ofPool (lookUp lookup key s)) := tidy_ask rfl
  unfold findAt
  refine tidy_ofPool_bind (tidy_connectEndpoint hs) fun r => ?_
  cases r with
  | error err => exact tidy_pure _
  | ok u =>
    dsimp only
    refine tidy_ofPool_bind hlookUp fun r => ?_
    split
    · refine tidy_ofPool_bind (tidy_connectEndpoint hs) fun r => ?_
      cases r with
      | error err => exact tidy_pure _
      | ok u =>
        dsimp only
        exact tidy_ofPool_bind hlookUp fun r => tidy_pure _
    · exact tidy_pure _

theorem tidy_zoneOfHost (hkeyed : Keyed p.endpoints) (tenant host : String)
    (labels : Config.Labels) : Tidy p (Strand.ofPool (p.zoneOfHost tenant host labels)) := by
  unfold zoneOfHost
  split
  · exact tidy_pure _
  · rename_i e he
    obtain rfl := hkeyed.endpoint_eq he
    refine tidy_ofPool_bind (tidy_connectEndpoint he) fun r => ?_
    cases r with
    | error err => exact tidy_pure _
    | ok u =>
      dsimp only
      refine tidy_ofPool_bind (tidy_onSession rfl) fun r => ?_
      cases r with
      | error err => exact tidy_pure _
      | ok tags => exact tidy_pure _

theorem tidy_examine (hkeyed : Keyed p.endpoints) (labels : Config.Labels) (zone region : String)
    (h : HostSite) : Tidy p (Strand.ofPool (p.examine labels zone region h)) := by
  unfold examine
  refine tidy_ofPool_bind (tidy_zoneOfHost hkeyed _ _ _) fun r => ?_
  cases r with
  | error err => exact tidy_pure _
  | ok zr => exact tidy_pure _

/-! ## Producers -/

section Producers

variable {endpoint : T → Endpoint}

theorem ofProducer_bind (q : Protocol (Search.interface interface T) α)
    (f : α → Protocol (Search.interface interface T) β) :
    Strand.ofProducer endpoint (q >>= f) =
      Strand.ofProducer endpoint q >>= fun a => Strand.ofProducer endpoint (f a) :=
  interpret_bind _ q f

theorem ofProducer_lift (q : Protocol interface α) :
    Strand.ofProducer endpoint (Search.lift q) = Strand.ofPool q := by
  induction q with
  | ret a => rfl
  | call c next ih =>
    exact congrArg (@Protocol.call Strand.interface α (.pool c)) (funext ih)

theorem tidy_ofProducer_bind {q : Protocol (Search.interface interface T) α}
    {f : α → Protocol (Search.interface interface T) β} (hq : Tidy p (Strand.ofProducer endpoint q))
    (hf : ∀ a, Tidy p (Strand.ofProducer endpoint (f a))) :
    Tidy p (Strand.ofProducer endpoint (q >>= f)) := by
  rw [ofProducer_bind]
  exact hq.bind hf

theorem tidy_lift {q : Protocol interface α} (hq : Tidy p (Strand.ofPool q)) :
    Tidy p (Strand.ofProducer endpoint (Search.lift q)) := by
  rwa [ofProducer_lift]

theorem tidy_isOver : Tidy p (Strand.ofProducer endpoint (Search.ask .isOver)) := tidy_ask rfl

theorem tidy_record (err : Error) : Tidy p (Strand.ofProducer endpoint (Search.ask (.record err))) :=
  tidy_ask rfl

theorem tidy_recordAll (errs : List Error) :
    Tidy p (Strand.ofProducer endpoint (recordAll errs)) := by
  induction errs with
  | nil => exact tidy_pure _
  | cons err errs ih =>
    unfold recordAll
    exact tidy_ofProducer_bind (tidy_record err) fun _ => ih

theorem tidy_pushAll {ts : List T} (hts : ∀ t ∈ ts, p.endpoint (endpoint t).tenant = .ok (endpoint t)) :
    Tidy p (Strand.ofProducer endpoint (pushAll ts)) := by
  induction ts with
  | nil => exact tidy_pure _
  | cons t ts ih =>
    have hpush : Tidy p (Strand.ofProducer endpoint (Search.ask (.push t))) := by
      refine ⟨.push (hts t List.mem_cons_self), ?_⟩
      rintro r g' ⟨-, rfl⟩
      rfl
    unfold pushAll
    refine tidy_ofProducer_bind hpush fun wanted => ?_
    cases wanted with
    | true => exact ih fun t' ht' => hts t' (List.mem_cons_of_mem _ ht')
    | false => exact tidy_pure _

end Producers

/-- What both producers do at an endpoint before they put tasks on the queue. -/
theorem tidy_visit {endpoint : T → Endpoint} (he : p.endpoint e.tenant = .ok e)
    {rest : Search.Producer interface T} (hrest : Tidy p (Strand.ofProducer endpoint rest))
    {f : Scan → Search.Producer interface T}
    (hf : ∀ s, Tidy p (Strand.ofProducer endpoint (f s))) :
    Tidy p (Strand.ofProducer endpoint (do
      if ← Search.ask .isOver then return
      match ← Search.lift (p.connectWithRetry e) with
      | .error err =>
        Search.ask (.record err)
        rest
      | .ok () =>
        let s ← Search.lift (scan e)
        recordAll s.failures
        f s)) := by
  refine tidy_ofProducer_bind tidy_isOver fun ended => ?_
  cases ended with
  | true => exact tidy_pure _
  | false =>
    rw [if_neg Bool.false_ne_true]
    refine tidy_ofProducer_bind (tidy_lift (tidy_connectWithRetry he)) fun r => ?_
    cases r with
    | error err =>
      dsimp only
      exact tidy_ofProducer_bind (tidy_record err) fun _ => hrest
    | ok u =>
      dsimp only
      refine tidy_ofProducer_bind (tidy_lift (tidy_scan e)) fun s => ?_
      exact tidy_ofProducer_bind (tidy_recordAll s.failures) fun _ => hf s

theorem tidy_produceSites (hes : Owns p es) :
    Tidy p (Strand.ofProducer Site.endpoint (p.produceSites es)) := by
  induction es with
  | nil => exact tidy_pure _
  | cons e es ih =>
    have he := hes e List.mem_cons_self
    have hrest := ih fun e' he' => hes e' (List.mem_cons_of_mem _ he')
    refine tidy_visit he hrest fun s => ?_
    refine tidy_ofProducer_bind (tidy_pushAll (by simpa using fun _ _ => he)) fun wanted => ?_
    cases wanted with
    | true => exact hrest
    | false => exact tidy_pure _

theorem tidy_produceHostsAt (he : p.endpoint e.tenant = .ok e) (ds : List Datacenter) :
    Tidy p (Strand.ofProducer (fun h : HostSite => h.site.endpoint) (produceHostsAt e ds)) := by
  induction ds with
  | nil => exact tidy_pure _
  | cons d ds ih =>
    unfold produceHostsAt
    refine tidy_ofProducer_bind tidy_isOver fun ended => ?_
    cases ended with
    | true => exact tidy_pure _
    | false =>
      rw [if_neg Bool.false_ne_true]
      refine tidy_ofProducer_bind (tidy_lift (tidy_onSession rfl)) fun r => ?_
      cases r with
      | error err =>
        dsimp only
        exact tidy_ofProducer_bind (tidy_record err) fun _ => ih
      | ok hosts =>
        dsimp only
        refine tidy_ofProducer_bind (tidy_pushAll (by simpa using fun _ _ => he)) fun wanted => ?_
        cases wanted with
        | true => exact ih
        | false => exact tidy_pure _

theorem tidy_produceHosts (hes : Owns p es) :
    Tidy p (Strand.ofProducer (fun h : HostSite => h.site.endpoint) (p.produceHosts es)) := by
  induction es with
  | nil => exact tidy_pure _
  | cons e es ih =>
    have he := hes e List.mem_cons_self
    have hrest := ih fun e' he' => hes e' (List.mem_cons_of_mem _ he')
    refine tidy_visit he hrest fun s => ?_
    refine tidy_ofProducer_bind (tidy_produceHostsAt he s.found) fun wanted => ?_
    cases wanted with
    | true => exact hrest
    | false => exact tidy_pure _

/-! ## Operations -/

theorem ofRounds_bind (q : Protocol Round.interface α) (f : α → Protocol Round.interface β) :
    Strand.ofRounds (q >>= f) = Strand.ofRounds q >>= fun a => Strand.ofRounds (f a) :=
  interpret_bind _ q f

theorem ofZones_bind (q : Protocol zoneInterface α) (f : α → Protocol zoneInterface β) :
    Strand.ofZones (q >>= f) = Strand.ofZones q >>= fun a => Strand.ofZones (f a) :=
  interpret_bind _ q f

theorem ofZones_liftZone (q : Protocol interface α) :
    Strand.ofZones (liftZone q) = Strand.ofPool q := by
  induction q with
  | ret a => rfl
  | call c next ih =>
    exact congrArg (@Protocol.call Strand.interface α (.pool c)) (funext ih)

theorem tidy_seek (lookup : Lookup) (id : String) : Tidy p (Strand.ofRounds (seek lookup id)) := by
  have hmake (r : Round) : Tidy p (Strand.ofRounds r.make) := by
    refine ⟨.calm rfl, ?_⟩
    rintro o g' ⟨-, rfl⟩
    rfl
  unfold seek
  split
  · exact tidy_pure _
  · cases lookup with
    | uuid => exact hmake _
    | ip => exact hmake _
    | name =>
      dsimp only
      rw [ofRounds_bind]
      refine (hmake _).bind fun r => ?_
      cases r with
      | ok f => exact tidy_pure _
      | error err => exact hmake _

theorem tidy_onlyPlace (he : p.endpoint e.tenant = .ok e) :
    Tidy p (Strand.ofPool (p.onlyPlace e)) := by
  unfold onlyPlace
  refine tidy_ofPool_bind (tidy_connectWithRetry he) fun r => ?_
  cases r with
  | error err => exact tidy_pure _
  | ok u =>
    dsimp only
    refine tidy_ofPool_bind (tidy_onSession rfl) fun r => ?_
    split <;> exact tidy_pure _

theorem tidy_seekZone (hes : Owns p p.list) (r : ZoneRound) :
    Tidy p (Strand.ofZones (p.seekZone r)) := by
  have hmake : Tidy p (Strand.ofZones (makeZoneRound r)) := by
    unfold makeZoneRound
    split
    · exact tidy_pure _
    · refine ⟨.calm rfl, ?_⟩
      rintro o g' ⟨-, rfl⟩
      rfl
  unfold seekZone
  split
  · exact tidy_pure _
  · rename_i e hlist
    rw [ofZones_bind, ofZones_liftZone]
    refine (tidy_onlyPlace (hes e (by simp [hlist]))).bind fun r => ?_
    split
    · exact tidy_pure _
    · exact tidy_pure _
    · exact hmake
  · exact hmake

theorem Operation.tidy (hkeyed : Keyed p.endpoints) (o : Operation) : Tidy p (o.strand p) := by
  have howns : Owns p p.list := fun e he => hkeyed.endpoint_of_mem he
  cases o with
  | connect tenant => exact (tidy_connect hkeyed tenant).discard
  | verify => exact (tidy_connectAll howns).discard
  | logout => exact tidy_logoutAll _
  | places =>
    have hplaces : Tidy p (Strand.ofPool p.places) := by
      unfold Pool.places
      exact tidy_ofPool_bind (tidy_placesOf howns) fun _ => tidy_pure _
    exact hplaces.discard
  | find lookup id => exact (tidy_seek lookup id).discard
  | findZone r => exact (tidy_seekZone howns r).discard
  | zoneOfHost tenant host labels => exact (tidy_zoneOfHost hkeyed tenant host labels).discard

theorem Quest.tidy_produce (hkeyed : Keyed p.endpoints) (k : Quest) :
    Tidy p (Strand.ofProducer k.endpoint (k.search p).produce) := by
  have howns : Owns p p.list := fun e he => hkeyed.endpoint_of_mem he
  cases k with
  | machine r => exact tidy_produceSites howns
  | zone r => exact tidy_produceHosts howns

theorem Quest.tidy_work (hkeyed : Keyed p.endpoints) {k : Quest} {t : k.Task}
    (ht : p.endpoint (k.endpoint t).tenant = .ok (k.endpoint t)) :
    Tidy p (Strand.ofPool ((k.search p).work t)).discard := by
  cases k with
  | machine r => exact (tidy_findAt ht).discard
  | zone r => exact (tidy_examine hkeyed _ _ _ _).discard

end

end NodeAtlas.Pool
