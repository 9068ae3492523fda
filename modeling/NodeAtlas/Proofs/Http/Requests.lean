import NodeAtlas.Http.Fleet
import NodeAtlas.Proofs.Http.SingleFlight
import NodeAtlas.Proofs.Net.References
import NodeAtlas.Protocol.Paths

/-!
# The requests of a client

A client sends logins, logouts and requests for data, and nothing else, whatever the answers are. All of
them go to addresses below the root of its server: no identifier that a server has reported and no value
that is looked up leads a request to another origin.
-/

namespace NodeAtlas.Http

open Protocol NodeAtlas.Net NodeAtlas.Net.Url NodeAtlas.Text

/-! ## Addresses -/

/-- Where a client looks for data. -/
def Client.api (x : Client) : Url :=
  ⟨x.baseUrl.origin, x.baseUrl.path.dropLast ++ ["api", "v1", ""], none, none⟩

/-- A path at which a client asks for data. -/
inductive IsDataPath : String → Prop where
  | datacenters : IsDataPath "datacenters"
  | machines (id : String) : IsDataPath ("datacenters/" ++ id ++ "/vms")
  | hosts (id : String) : IsDataPath ("datacenters/" ++ id ++ "/hosts")
  | host (id : String) : IsDataPath ("hosts/" ++ id)
  | tags : IsDataPath "tags"

section Addresses

variable {x : Client} {path : String}

theorem descends_datacenters (rest : List Char) : Descends ("datacenters".toList ++ '/' :: rest) :=
  ⟨"datacenters".toList, '/' :: rest, rfl, by decide, by simp⟩

theorem descends_hosts (rest : List Char) : Descends ("hosts".toList ++ '/' :: rest) :=
  ⟨"hosts".toList, '/' :: rest, rfl, by decide, by simp⟩

theorem descends_of_isDataPath (h : IsDataPath path) : Descends path.toList := by
  cases h with
  | datacenters => exact ⟨_, [], (List.append_nil _).symm, by decide, by simp⟩
  | machines id =>
    have hpath : ("datacenters/" ++ id ++ "/vms").toList =
        "datacenters".toList ++ '/' :: (id.toList ++ "/vms".toList) := by simp
    exact hpath ▸ descends_datacenters _
  | hosts id =>
    have hpath : ("datacenters/" ++ id ++ "/hosts").toList =
        "datacenters".toList ++ '/' :: (id.toList ++ "/hosts".toList) := by simp
    exact hpath ▸ descends_datacenters _
  | host id =>
    have hpath : ("hosts/" ++ id).toList = "hosts".toList ++ '/' :: id.toList := by simp
    exact hpath ▸ descends_hosts _
  | tags => exact ⟨_, [], (List.append_nil _).symm, by decide, by simp⟩

theorem url_of_descends (x : Client) (h : Descends path.toList) :
    x.url path = .ok (below x.baseUrl (clean path.toList)) := by
  rw [Client.url, join_of_descends _ h]

theorem descends_login : Descends "api/v1/login".toList :=
  ⟨"api".toList, "/v1/login".toList, rfl, by decide, by simp⟩

theorem descends_logout : Descends "api/v1/logout".toList :=
  ⟨"api".toList, "/v1/logout".toList, rfl, by decide, by simp⟩

theorem url_root (x : Client) : x.url "api/v1/" = .ok x.api := by
  have hroot : Descends "api/v1/".toList :=
    ⟨"api".toList, "/v1/".toList, rfl, by decide, by simp⟩
  have hclean : clean "api/v1/".toList = "api/v1/".toList := by decide
  rw [url_of_descends x hroot, hclean]
  unfold below Client.api
  have hpath : pathPieces (Tail.ofChars "api/v1/".toList).path = ["api".toList, "v1".toList, []] := by
    decide
  have hwalk : ∀ done, walk done ["api".toList, "v1".toList, []] = done ++ ["api", "v1", ""] := by
    intro done
    simp [walk, dotForm, percentEncode, escapesInPath, escapesInFragment, escapesAlways]
  rw [hpath, hwalk]
  rfl

/-- Data is always asked for at an address below that of all data. -/
theorem dataUrl_of_descends (x : Client) (h : Descends path.toList) :
    x.dataUrl path = .ok (below x.api (clean path.toList)) := by
  obtain ⟨c, cs, hcs, hc⟩ := exists_cons_of_descends h
  have hfront : path.toList.dropWhile (· == '/') = path.toList := by
    have hslash := isSlash_of_isAlphanumeric hc
    rw [hcs, List.dropWhile_cons_of_neg]
    simp only [isSlash, Bool.or_eq_false_iff] at hslash
    simp [hslash.1]
  have hjoin : x.api.join path = .ok (below x.api (clean path.toList)) := join_of_descends _ h
  unfold Client.dataUrl
  simp only [url_root, hfront, String.ofList_toList, hjoin]

end Addresses

/-! ## What is sent -/

/-- The requests of a client whose requests for data are made at some paths with some queries. -/
inductive Sends (x : Client) (D : String → List (String × String) → Prop) : Request → Prop where
  | login {u : Url} (hu : x.url "api/v1/login" = .ok u) (c : Credentials) :
      Sends x D (loginRequest u c)
  | logout {u : Url} (hu : x.url "api/v1/logout" = .ok u) (a : Auth) : Sends x D (farewell u a)
  | data {path : String} {query : List (String × String)} {u : Url} (hd : D path query)
      (hu : x.dataUrl path = .ok u) (token : Option String) :
      Sends x D { url := u.withPairs query, authorization := token }

/-- The call sends only such a request, if it sends one at all. -/
def Call.Within (x : Client) (D : String → List (String × String) → Prop) : Call → Prop
  | .send q => Sends x D q
  | _ => True

section Sends

variable {x : Client} {D : String → List (String × String) → Prop}

theorem only_ask {c : Call} (hc : c.Within x D) : (ask c).Only (Call.Within x D) :=
  only_call_iff.mpr ⟨hc, only_ret⟩

theorem only_login (c : Credentials) : (x.login c).Only (Call.Within x D) := by
  unfold Client.login
  split
  · exact only_ret _
  · exact only_ret _
  · rename_i u _ hu
    refine (only_ask (c := .send (loginRequest u c)) (.login hu c)).bind ?_
    intro r
    cases r <;> exact only_ret _

theorem only_refresh : x.refresh.Only (Call.Within x D) := by
  unfold Client.refresh
  refine (only_ask (c := .credentials) trivial).bind fun c => (only_login c).bind fun r => ?_
  cases r with
  | ok a => exact (only_ask (c := .setAuth (some a)) trivial).bind fun _ => only_ret _
  | error e => exact (only_ask (c := .setAuth none) trivial).bind fun _ => only_ret _

theorem only_unlock {α : Type} (r : α) :
    (do ask .unlock; return r : Protocol interface α).Only (Call.Within x D) :=
  (only_ask (c := .unlock) trivial).bind fun _ => only_ret r

theorem only_ensure : x.ensure.Only (Call.Within x D) := by
  unfold Client.ensure
  refine (only_ask (c := .isLive) trivial).bind fun live => ?_
  cases live with
  | true => exact only_ret _
  | false =>
    refine (only_ask (c := .lock) trivial).bind fun _ => (only_ask (c := .isLive) trivial).bind ?_
    intro again
    cases again with
    | true => exact only_unlock _
    | false => exact only_refresh.bind only_unlock

theorem only_currentToken : currentToken.Only (Call.Within x D) :=
  (only_ask (c := .auth) trivial).bind fun _ => only_ret _

theorem only_relogin (rejected : Option String) : (x.relogin rejected).Only (Call.Within x D) := by
  unfold Client.relogin
  refine (only_ask (c := .lock) trivial).bind fun _ => only_currentToken.bind fun current => ?_
  split
  · exact only_unlock _
  · exact only_refresh.bind only_unlock

theorem only_logout : x.logout.Only (Call.Within x D) := by
  unfold Client.logout
  refine (only_ask (c := .takeAuth) trivial).bind fun a => ?_
  cases a with
  | none => exact only_ret _
  | some a =>
    dsimp only
    split
    · exact only_ret _
    · rename_i u hu
      refine (only_ask (c := .send (farewell u a)) (.logout hu a)).bind fun r => ?_
      cases r <;> exact only_ret _

/-- A request for data is sent to the address of its path, with its query, at most twice. -/
theorem only_data {α : Type} (read : Json → Option α) {path : String}
    {query : List (String × String)} (hd : D path query) :
    (x.data read path query).Only (Call.Within x D) := by
  unfold Client.data
  refine only_ensure.bind fun r => ?_
  cases r with
  | error e => exact only_ret _
  | ok _ =>
    dsimp only
    split
    · exact only_ret _
    · rename_i u hu
      have hget : ∀ token, (get u query token).Only (Call.Within x D) := fun token =>
        only_ask (c := .send _) (.data hd hu token)
      refine only_currentToken.bind fun token => (hget token).bind fun r => ?_
      split
      · refine (only_relogin token).bind fun again => ?_
        cases again with
        | error e => exact only_ret _
        | ok _ => exact only_currentToken.bind fun token' => (hget token').bind fun _ => only_ret _
      · exact only_ret _

/-! ## Calls on sessions -/

theorem only_datacenters (hd : D "datacenters" []) : x.datacenters.Only (Call.Within x D) := by
  unfold Client.datacenters
  refine (only_data _ hd).bind fun r => ?_
  cases r <;> exact only_ret _

theorem only_datacenter (hd : D "datacenters" []) (name : String) :
    (x.datacenter name).Only (Call.Within x D) := by
  unfold Client.datacenter
  refine (only_datacenters hd).bind fun r => ?_
  cases r with
  | error e => exact only_ret _
  | ok ds =>
    dsimp only
    split <;> exact only_ret _

theorem only_machine {lookup : Lookup} {d : Datacenter} {key : String}
    (hd : D ("datacenters/" ++ d.id ++ "/vms") [(lookup.word, Client.lookupValue lookup key)]) :
    (x.machine lookup d key).Only (Call.Within x D) := by
  unfold Client.machine
  refine (only_data _ hd).bind fun r => ?_
  cases r with
  | error e => exact only_ret _
  | ok vms =>
    dsimp only
    split <;> exact only_ret _

theorem only_hosts {d : Datacenter} (hd : D ("datacenters/" ++ d.id ++ "/hosts") []) :
    (x.hosts d).Only (Call.Within x D) := by
  unfold Client.hosts
  refine (only_data _ hd).bind fun r => ?_
  cases r <;> exact only_ret _

theorem only_tagsOf (hd : ∀ kind id, D "tags" [("targetType", kind), ("targetId", id)])
    (tags : List Tag) (targets : List (String × String)) :
    (x.tagsOf tags targets).Only (Call.Within x D) := by
  induction targets generalizing tags with
  | nil => exact only_ret _
  | cons target targets ih =>
    obtain ⟨kind, id⟩ := target
    unfold Client.tagsOf
    split
    · exact ih tags
    · refine (only_data _ (hd kind id)).bind fun r => ?_
      cases r with
      | error e => exact only_ret _
      | ok found => exact ih _

theorem only_hostTags {id : String} (hhost : D ("hosts/" ++ id) [])
    (htags : ∀ kind id, D "tags" [("targetType", kind), ("targetId", id)]) :
    (x.hostTags id).Only (Call.Within x D) := by
  unfold Client.hostTags
  refine (only_data _ hhost).bind fun r => ?_
  rcases r with e | _ | h
  · exact only_ret _
  · exact only_ret _
  · exact only_tagsOf htags _ _

/-- Whatever is called on its session, a client asks for data at such paths only. -/
theorem only_answer (x : Client) (c : Session.Call) :
    (x.answer c).Only (Call.Within x fun path _ => IsDataPath path) := by
  cases c with
  | connect => exact only_ensure
  | logout => exact only_logout
  | isConnected => exact only_ask (c := .isLive) trivial
  | updateCredentials c => exact only_ask (c := .setCredentials c) trivial
  | listDatacenters => exact only_datacenters .datacenters
  | getDatacenter name => exact only_datacenter .datacenters name
  | findMachine lookup d key => exact only_machine (.machines d.id)
  | listHosts d => exact only_hosts (.hosts d.id)
  | hostTags id => exact only_hostTags (.host id) fun _ _ => .tags

end Sends

/-! ## Origins -/

theorem origin_withPairs (u : Url) (pairs : List (String × String)) :
    (u.withPairs pairs).origin = u.origin := by
  unfold withPairs
  split <;> rfl

theorem origin_of_sends {x : Client} {q : Request} (h : Sends x (fun path _ => IsDataPath path) q) :
    q.url.origin = x.baseUrl.origin := by
  cases h with
  | login hu c =>
    rw [url_of_descends x descends_login] at hu
    cases hu
    rfl
  | logout hu a =>
    rw [url_of_descends x descends_logout] at hu
    cases hu
    rfl
  | data hd hu token =>
    rw [dataUrl_of_descends x (descends_of_isDataPath hd)] at hu
    cases hu
    exact origin_withPairs _ _

/-- A call of a fleet, if it sends a request, sends it to the origin of the client that sends it. -/
def Fleet.Call.Keeps (clients : String → Client) : Fleet.Call → Prop
  | .client t (.send q) => q.url.origin = (clients t).baseUrl.origin
  | _ => True

theorem Fleet.only_ofClient (clients : String → Client) (t : String) (c : Session.Call) :
    (ofClient t ((clients t).answer c)).Only (Fleet.Call.Keeps clients) := by
  refine (only_answer (clients t) c).interpret fun d hd => only_call_iff.mpr ⟨?_, only_ret⟩
  cases d with
  | send q => exact origin_of_sends hd
  | _ => trivial

theorem Fleet.origin_of_asks_ofPool {clients : String → Client} {α : Type}
    {p : Protocol Pool.interface α} {es : List Fleet.interface.Exchange} {t : String} {q : Request}
    (h : (ofPool clients p).Asks es (.client t (.send q))) :
    q.url.origin = (clients t).baseUrl.origin := by
  have hall : p.Only fun _ => True := fun _ _ _ => trivial
  have honly : (ofPool clients p).Only (Fleet.Call.Keeps clients) := by
    refine hall.interpret fun c _ => ?_
    cases c with
    | session t c => exact only_ofClient clients t c
    | _ => exact only_call_iff.mpr ⟨trivial, only_ret⟩
  exact honly es _ h

/-- The first request for data within a live session carries its token. -/
theorem asks_data {x : Client} {α : Type} (read : Json → Option α) {path : String}
    (query : List (String × String)) {u : Url} (hu : x.dataUrl path = .ok u) (a : Auth) :
    (x.data read path query).Asks [⟨.isLive, true⟩, ⟨.auth, some a⟩] (.send (inquiry u query a)) := by
  have hask : ∀ (d : Call) (r : Reply d), (ask d).Yields [⟨d, r⟩] r := fun d r =>
    yields_call_iff.mpr ⟨r, [], .ret _, rfl⟩
  have hensure : x.ensure.Yields [⟨.isLive, true⟩] (.ok ()) := by
    unfold Client.ensure
    exact yields_bind_iff.mpr ⟨_, true, [], hask .isLive true, .ret _, rfl⟩
  have htoken : currentToken.Yields [⟨.auth, some a⟩] (some a.token) :=
    yields_map_iff.mpr ⟨some a, hask .auth (some a), rfl⟩
  unfold Client.data
  refine asks_bind_iff.mpr (.inr ⟨_, _, _, hensure, ?_, rfl⟩)
  simp only [hu]
  refine asks_bind_iff.mpr (.inr ⟨_, _, [], htoken, asks_bind_iff.mpr (.inl ?_), rfl⟩)
  exact .here _ _

/-- No request leaves the origin of its client. The address of every request for data can be formed,
whatever identifier stands in its path, and it has the scheme, the host and the port of the root of the
server, as have those of logins and logouts. So does everything that a client sends, whatever is called on
its session and whatever is replied; and so does everything that a pool sends by the client of a tenant. -/
theorem origin_of_sent (clients : String → Client) :
    (∀ t path, IsDataPath path → ∃ u, (clients t).dataUrl path = .ok u ∧
      u.origin = (clients t).baseUrl.origin) ∧
    (∀ t, ∃ u v, (clients t).url "api/v1/login" = .ok u ∧ (clients t).url "api/v1/logout" = .ok v ∧
      u.origin = (clients t).baseUrl.origin ∧ v.origin = (clients t).baseUrl.origin) ∧
    (∀ t c es q, ((clients t).answer c).Asks es (.send q) →
      q.url.origin = (clients t).baseUrl.origin) ∧
    ∀ (α : Type) (p : Protocol Pool.interface α) es t q,
      (Fleet.ofPool clients p).Asks es (.client t (.send q)) →
        q.url.origin = (clients t).baseUrl.origin := by
  refine ⟨?_, ?_, ?_, ?_⟩
  · intro t path hpath
    exact ⟨_, dataUrl_of_descends _ (descends_of_isDataPath hpath), rfl⟩
  · intro t
    exact ⟨_, _, url_of_descends _ descends_login, url_of_descends _ descends_logout, rfl, rfl⟩
  · intro t c es q h
    exact origin_of_sends (only_answer _ c es _ h)
  · intro α p es t q h
    exact Fleet.origin_of_asks_ofPool h

/-- A host whose identifier is an address elsewhere is asked for on the server that has reported it, by a
request that carries the token. -/
theorem origin_of_sent_elsewhere :
    ∃ es q, (deskClient.answer (.hostTags "\\\\b/..\\https://c")).Asks es (.send q) ∧
      q.authorization = some "t-1" ∧ q.url.origin = deskClient.baseUrl.origin ∧
      ∃ u, deskClient.dataUrl ("hosts/" ++ "\\\\b/..\\https://c") = .ok u ∧
        u.origin = deskClient.baseUrl.origin := by
  obtain ⟨hbuilt, -, hsent, -⟩ := origin_of_sent fun _ => deskClient
  obtain ⟨u, hu, hu'⟩ := hbuilt "a" _ (.host "\\\\b/..\\https://c")
  have hasks : (deskClient.answer (.hostTags "\\\\b/..\\https://c")).Asks _
      (.send (inquiry u [] ⟨"t-1", "admin"⟩)) :=
    asks_bind_iff.mpr (.inl (asks_data Host.ofJson? [] hu ⟨"t-1", "admin"⟩))
  exact ⟨_, _, hasks, rfl, hsent "a" _ _ _ hasks, u, hu, hu'⟩

end NodeAtlas.Http
