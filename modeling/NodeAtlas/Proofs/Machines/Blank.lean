import NodeAtlas.Proofs.Http.Addressing
import NodeAtlas.Proofs.Machines.Find
import NodeAtlas.Proofs.Pool.Connect
import NodeAtlas.Proofs.Text.Trim

/-!
# Blank identifiers

An identifier that holds nothing but blank characters names no machine. A search by UUID refuses it without
a call, and so does every search for the empty identifier. A search by name or by address takes any other
blank identifier for a key: it makes its rounds, all lookups in them have that key, and a client sends them
out with an empty value.
-/

namespace NodeAtlas.Pool

open Protocol Search NodeAtlas.Text

/-! ## What a round looks up -/

/-- The call looks this key up, if it looks anything up at all. -/
def Call.LooksUp (lookup : Lookup) (key : String) : Call → Prop
  | .session _ (.findMachine lookup' _ key') => lookup' = lookup ∧ key' = key
  | _ => True

/-- The same of a call of a producer. -/
def OuterLooksUp (lookup : Lookup) (key : String) : Search.Call interface Site → Prop
  | .outer c => c.LooksUp lookup key
  | _ => True

section LooksUp

variable {p : Pool} {lookup : Lookup} {key : String}

theorem only_ask {c : Call} (hc : c.LooksUp lookup key) : (ask c).Only (Call.LooksUp lookup key) :=
  only_call_iff.mpr ⟨hc, only_ret⟩

theorem only_connectEndpoint (e : Endpoint) :
    (p.connectEndpoint e).Only (Call.LooksUp lookup key) := by
  intro es c h
  cases only_connects p e es c h with
  | _ => trivial

theorem only_retry (e : Endpoint) (attempts : Nat) :
    (p.retry e attempts).Only (Call.LooksUp lookup key) := by
  induction attempts with
  | zero => exact only_connectEndpoint e
  | succ attempts ih =>
    unfold retry
    refine (only_connectEndpoint e).bind fun r => ?_
    cases r with
    | ok _ => exact only_ret _
    | error err =>
      dsimp only
      split
      · exact (only_ask (c := .sleep p.discovery.retryDelay.toNat) trivial).bind fun _ => ih
      · exact only_ret _

theorem only_lookupAll (e : Endpoint) (s : Scan) (names : List String) :
    (lookupAll e s names).Only (Call.LooksUp lookup key) := by
  induction names generalizing s with
  | nil => exact only_ret _
  | cons name names ih =>
    refine (only_ask (c := .session e.tenant (.getDatacenter name)) trivial).bind fun r => ?_
    cases r <;> exact ih _

theorem only_scan (e : Endpoint) : (scan e).Only (Call.LooksUp lookup key) := by
  unfold scan
  split
  · refine (only_ask (c := .session e.tenant .listDatacenters) trivial).bind fun r => ?_
    cases r <;> exact only_ret _
  · exact only_lookupAll e {} e.datacenters

theorem only_findAt (s : Site) : (p.findAt lookup key s).Only (Call.LooksUp lookup key) := by
  have hlookUp : (lookUp lookup key s).Only (Call.LooksUp lookup key) :=
    only_ask (c := .session s.endpoint.tenant (.findMachine lookup s.datacenter key)) ⟨rfl, rfl⟩
  unfold findAt
  refine (only_connectEndpoint s.endpoint).bind fun r => ?_
  cases r with
  | error err => exact only_ret _
  | ok _ =>
    refine hlookUp.bind fun r => ?_
    split
    · refine (only_connectEndpoint s.endpoint).bind fun r => ?_
      cases r with
      | error err => exact only_ret _
      | ok _ => exact hlookUp.bind fun _ => only_ret _
    · exact only_ret _

/-! ### The producer -/

theorem only_lift {α : Type} {q : Protocol interface α} (h : q.Only (Call.LooksUp lookup key)) :
    (Search.lift q : Protocol (Search.interface interface Site) α).Only (OuterLooksUp lookup key) := by
  induction q with
  | ret a => exact only_ret a
  | call c next ih =>
    obtain ⟨hc, hnext⟩ := only_call_iff.mp h
    exact only_call_iff.mpr ⟨hc, fun r => ih r (hnext r)⟩

theorem only_ask_search {c : Search.Call interface Site} (hc : OuterLooksUp lookup key c) :
    (Search.ask c).Only (OuterLooksUp lookup key) :=
  only_call_iff.mpr ⟨hc, only_ret⟩

theorem only_recordAll (es : List Error) : (recordAll es).Only (OuterLooksUp lookup key) := by
  induction es with
  | nil => exact only_ret _
  | cons e es ih => exact (only_ask_search (c := .record e) trivial).bind fun _ => ih

theorem only_pushAll (ts : List Site) : (pushAll ts).Only (OuterLooksUp lookup key) := by
  induction ts with
  | nil => exact only_ret _
  | cons t ts ih =>
    refine (only_ask_search (c := .push t) trivial).bind fun wanted => ?_
    cases wanted
    · exact only_ret _
    · exact ih

theorem only_produceSites (es : List Endpoint) :
    (p.produceSites es).Only (OuterLooksUp lookup key) := by
  induction es with
  | nil => exact only_ret _
  | cons e es ih =>
    refine (only_ask_search (c := .isOver) trivial).bind fun ended => ?_
    cases ended with
    | true => exact only_ret _
    | false =>
      refine (only_lift (only_retry e _)).bind fun r => ?_
      cases r with
      | error err => exact (only_ask_search (c := .record err) trivial).bind fun _ => ih
      | ok _ =>
        refine (only_lift (only_scan e)).bind fun s => (only_recordAll s.failures).bind fun _ => ?_
        refine (only_pushAll _).bind fun more => ?_
        cases more
        · exact only_ret _
        · exact ih

/-- All lookups of a round have its key. -/
theorem looksUp_of_made {w : World Pool.interface} {r : Round.Report} (hr : Round.Made p w r) :
    ∀ y ∈ r.events.filterMap answered?, y.1.LooksUp r.round.lookup r.round.key := by
  obtain ⟨world, after, hends⟩ := hr
  intro y hy
  obtain ⟨event, hevent, hanswer⟩ := List.mem_filterMap.mp hy
  cases event with
  | asked x =>
    cases hanswer
    have hmem : outward y ∈ exchanges r.events := List.mem_filterMap.mpr ⟨_, hevent, rfl⟩
    obtain ⟨ys, -, -, hasks⟩ := asks_of_ends workers_within_pos hends hmem
    exact only_produceSites p.list ys _ hasks
  | worked t x =>
    cases hanswer
    obtain ⟨xs, hasks⟩ := asks_work_of_ends hends hevent
    exact only_findAt t xs _ hasks
  | _ => cases hanswer

end LooksUp

/-! ## Blank keys -/

theorem lowerCase_trim_of_isBlankText {id : String} (hid : isBlankText id = true) :
    lowerCase (trim id) = "" := by
  rw [trim_eq_empty_iff.mpr hid]
  rfl

/-- Which blank identifiers are refused. -/
theorem isBlankId_iff {lookup : Lookup} {id : String} (hid : isBlankText id = true) :
    isBlankId lookup id = true ↔ lookup = .uuid ∨ id = "" := by
  cases lookup with
  | uuid => simp [isBlankId, canonicalize, lowerCase_trim_of_isBlankText hid]
  | name => simp [isBlankId]
  | ip => simp [isBlankId]

/-- What a client sends for a blank key that is no UUID. -/
theorem inquires_of_isBlankText (x : Http.Client) {lookup : Lookup} (d : Datacenter) {id : String}
    (hid : isBlankText id = true) (hlookup : lookup ≠ .uuid) :
    ∃ u, Http.Inquires (x.machine lookup d id) u [(lookup.word, "")] fun _ => False := by
  have hvalue : Http.Client.lookupValue lookup id = "" := by
    cases lookup with
    | uuid => exact (hlookup rfl).elim
    | name => exact lowerCase_trim_of_isBlankText hid
    | ip => exact lowerCase_trim_of_isBlankText hid
  have hurl := Http.dataUrl_of_descends x (Http.descends_of_isDataPath (.machines d.id))
  rw [← hvalue]
  exact ⟨_, Http.inquires_machine hurl⟩

theorem mem_roundsFor {lookup : Lookup} {id : String} {r : Round} (hr : r ∈ roundsFor lookup id)
    (hlookup : lookup ≠ .uuid) : r.key = id ∧ r.lookup ≠ .uuid := by
  cases lookup with
  | uuid => exact (hlookup rfl).elim
  | ip =>
    rw [List.mem_singleton.mp hr]
    exact ⟨rfl, nofun⟩
  | name =>
    rcases List.mem_pair.mp hr with rfl | rfl
    · exact ⟨rfl, nofun⟩
    · exact ⟨rfl, nofun⟩

/-- What becomes of a blank identifier. By UUID, and if it is empty, it is refused at once: there is no
round, so no session is called. By name or by address its rounds are made as for any other key; every lookup
in them has the blank key, those that find nothing search all datacenters, and the request of a client for
such a lookup has an empty value. -/
theorem refused_or_sent_of_isBlankText {p : Pool} {w : World Pool.interface} {lookup : Lookup}
    {id : String} (hid : isBlankText id = true) {world after : w.State} {res : Result Found}
    {log : List Round.Report} :
    (lookup = .uuid ∨ id = "" →
      (Plays (p.rounds w) (seek lookup id) (world, []) res (after, log) ↔
        res = .error (.vmNotFound "empty node identifier") ∧ after = world ∧ log = [])) ∧
    (lookup ≠ .uuid → id ≠ "" →
      Plays (p.rounds w) (seek lookup id) (world, []) res (after, log) →
        log ≠ [] ∧ log.map Report.round <+: roundsFor lookup id ∧ ∀ r ∈ log,
          (∀ y ∈ r.events.filterMap answered?, y.1.LooksUp r.round.lookup id) ∧
          (Round.Unmatched r →
            ∃ visits : List Visit, visits.map Visit.endpoint = p.list ∧ Thorough p visits r) ∧
          ∀ (x : Http.Client) (d : Datacenter), ∃ u,
            Http.Inquires (x.machine r.round.lookup d id) u [(r.round.lookup.word, "")]
              fun _ => False) := by
  constructor
  · intro hrefused
    have hblank : isBlankId lookup id = true := (isBlankId_iff hid).mpr hrefused
    have hseek : seek lookup id = return .error (.vmNotFound "empty node identifier") := by
      unfold seek
      rw [if_pos hblank]
    rw [hseek]
    constructor
    · intro h
      obtain ⟨hres, hstate⟩ := plays_ret_iff.mp h
      exact ⟨hres, congrArg Prod.fst hstate, congrArg Prod.snd hstate⟩
    · rintro ⟨rfl, rfl, rfl⟩
      exact plays_ret_iff.mpr ⟨rfl, rfl⟩
  · intro hlookup hne h
    have hblank : isBlankId lookup id = false := by
      rw [Bool.eq_false_iff]
      intro hblank
      rcases (isBlankId_iff hid).mp hblank with hlookup' | hempty
      · exact hlookup hlookup'
      · exact hne hempty
    have hmade : ∀ r ∈ log, Round.Made p w r := made_of_plays h (by simp)
    obtain ⟨before, last, rfl, hdec⟩ := decides_of_seek hblank h
    refine ⟨by simp, hdec.rounds, ?_⟩
    intro r hr
    obtain ⟨hkey, huuid⟩ := mem_roundsFor (hdec.rounds.subset (List.mem_map_of_mem hr)) hlookup
    refine ⟨?_, fun hu => thorough_of_made (hmade r hr) hu, fun x d => ?_⟩
    · rw [← hkey]
      exact looksUp_of_made (hmade r hr)
    · exact inquires_of_isBlankText x d hid huuid

/-- A single blank is refused as a UUID, and looked up as a name and as an address on both endpoints. -/
theorem refused_or_sent_of_isBlankText_pair :
    isBlankText " " = true ∧
    (∃ log, Plays (pair.rounds (.ofHandler oneDown)) (seek .uuid " ") ((), [])
      (.error (.vmNotFound "empty node identifier")) ((), log) ∧ log = []) ∧
    ∃ log, Plays (pair.rounds (.ofHandler oneDown)) (seek .name " ") ((), [])
        (.error (.connection "down")) ((), log) ∧ log ≠ [] ∧
      ∀ r ∈ log, ∀ d, ∃ u, Http.Inquires (Http.deskClient.machine r.round.lookup d " ") u
        [(r.round.lookup.word, "")] fun _ => False := by
  have hid : isBlankText " " = true := by decide
  refine ⟨hid, ?_, ?_⟩
  · exact ⟨[], ((refused_or_sent_of_isBlankText hid).1 (.inl rfl)).mpr ⟨rfl, rfl, rfl⟩, rfl⟩
  · obtain ⟨log, h⟩ := plays_find pair oneDown .name " " ()
    have hname : Lookup.name ≠ .uuid := by decide
    obtain ⟨hne, -, hall⟩ := (refused_or_sent_of_isBlankText hid).2 hname (by decide) h
    exact ⟨log, h, hne, fun r hr => (hall r hr).2.2 Http.deskClient⟩

/-- A blank name is looked up, and found where a machine goes by it. -/
theorem exists_found_by_blank :
    isBlankText " " = true ∧
      (pair.find (smallWorld (fun _ s => (.ok (), s)) [" "]) .name " " ()).1 =
        .ok ⟨⟨"a", "10.0.0.1", ⟨"dc1", "DC1", ""⟩⟩, canonicalize "4210A1B2", " ",
          ⟨"4210A1B2", " ", [], 4, 8192, "", none⟩⟩ := by
  constructor
  · decide
  · rfl

end NodeAtlas.Pool
