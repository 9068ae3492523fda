import NodeAtlas.Proofs.Http.Requests
import NodeAtlas.Proofs.Net.Pasting

/-!
# Where data is asked for

The machines and the hosts of a datacenter and a host itself are asked for at paths into which an identifier
is pasted as the server has reported it. The path holds the identifier as one segment exactly if it can be
pasted; nothing else than the pairs of the lookup is then in the query. Any other identifier leads to
another path, perhaps to that of another identifier or out of its collection.
-/

namespace NodeAtlas.Http

open Protocol NodeAtlas.Net NodeAtlas.Net.Url NodeAtlas.Text

/-- The address with these segments below that of all data. -/
def Client.place (x : Client) (segments : List String) : Url :=
  ⟨x.baseUrl.origin, x.baseUrl.path.dropLast ++ ["api", "v1"] ++ segments, none, none⟩

/-- Within a session, data is asked for at the address with the pairs at once. It is never asked for
anywhere else, but at such addresses. -/
structure Inquires {α : Type} (p : Protocol interface α) (u : Url) (pairs : List (String × String))
    (IsOther : Url → Prop) : Prop where
  at_once : ∀ a, p.Asks [⟨.isLive, true⟩, ⟨.auth, some a⟩] (.send (inquiry u pairs a))
  only : ∀ es q, p.Asks es (.send q) → q.isPost = false → q.url = u.withPairs pairs ∨ IsOther q.url

section Places

variable {x : Client} {lead : List Char} {last : Option (List Char)}

theorem dropLast_api_path (x : Client) :
    x.api.path.dropLast = x.baseUrl.path.dropLast ++ ["api", "v1"] := by
  have hpath : x.api.path = x.baseUrl.path.dropLast ++ ["api", "v1"] ++ [""] := by
    rw [List.append_assoc]
    rfl
  rw [hpath, List.dropLast_concat]

/-- The address of a path with an identifier in it, compared with the one that is meant. -/
theorem dataUrl_pasted (x : Client) (hlead : IsWord lead) (hlast : ∀ w ∈ last, IsWord w)
    {path id : String} (hpath : path.toList = lead ++ '/' :: (id.toList ++ behind last)) :
    ∃ u, x.dataUrl path = .ok u ∧
      (u.path = (x.place (String.ofList lead :: segment id :: lastSegments last)).path ↔
        Pastable last id.toList) ∧
      (Pastable last id.toList → u = x.place (String.ofList lead :: segment id :: lastSegments last)) := by
  have hdescends : Descends path.toList := ⟨lead, _, hpath, hlead, by simp⟩
  have hpastes := path_eq_iff_pastable x.api hlead hlast id.toList
  have hplace : (x.place (String.ofList lead :: segment id :: lastSegments last)).path =
      x.api.path.dropLast ++ [String.ofList lead] ++
        segment (String.ofList id.toList) :: lastSegments last := by
    rw [dropLast_api_path, String.ofList_toList, List.append_assoc _ [_], List.singleton_append]
    rfl
  refine ⟨_, dataUrl_of_descends x hdescends, ?_, ?_⟩
  · rw [hplace, hpath]
    exact hpastes
  · intro h
    rw [hpath, below_of_pastable x.api hlead hlast h, ← hplace]
    rfl

theorem dataUrl_tags (x : Client) : x.dataUrl "tags" = .ok (x.place ["tags"]) := by
  have hword : IsWord "tags".toList := by decide
  have hdescends : Descends "tags".toList := ⟨_, [], (List.append_nil _).symm, hword, by simp⟩
  have hclean : clean "tags".toList = "tags".toList := by decide
  have hpieces : pathPieces (Tail.ofChars "tags".toList).path = ["tags".toList] := by decide
  rw [dataUrl_of_descends x hdescends, hclean, below, hpieces, walk_word hword, dropLast_api_path]
  rfl

/-! ## The three requests -/

theorem inquires_data {α β : Type} {read : Json → Option β} {path : String}
    {pairs : List (String × String)} {f : Result (Option β) → Protocol interface α} {u : Url}
    {D : String → List (String × String) → Prop} {IsOther : Url → Prop}
    (hu : x.dataUrl path = .ok u)
    (hall : (x.data read path pairs >>= f).Only (Call.Within x D))
    (hd : ∀ path' pairs', D path' pairs' → path' = path ∧ pairs' = pairs ∨
      ∀ v, x.dataUrl path' = .ok v → IsOther (v.withPairs pairs')) :
    Inquires (x.data read path pairs >>= f) u pairs IsOther := by
  constructor
  · intro a
    exact asks_bind_iff.mpr (.inl (asks_data read pairs hu a))
  · intro es q hasks hget
    have hsends : Sends x D q := hall es _ hasks
    cases hsends with
    | login => exact absurd hget (by simp [loginRequest])
    | logout => exact absurd hget (by simp [farewell])
    | data hpath hv token =>
      rcases hd _ _ hpath with ⟨rfl, rfl⟩ | hother
      · rw [hu] at hv
        cases hv
        exact .inl rfl
      · exact .inr (hother _ hv)

theorem inquires_machine {lookup : Lookup} {d : Datacenter} {key : String} {u : Url}
    (hu : x.dataUrl ("datacenters/" ++ d.id ++ "/vms") = .ok u) :
    Inquires (x.machine lookup d key) u [(lookup.word, Client.lookupValue lookup key)]
      fun _ => False := by
  have hall : (x.machine lookup d key).Only (Call.Within x fun path pairs =>
      path = "datacenters/" ++ d.id ++ "/vms" ∧
        pairs = [(lookup.word, Client.lookupValue lookup key)]) := only_machine ⟨rfl, rfl⟩
  exact inquires_data hu hall fun _ _ hd => .inl hd

theorem inquires_hosts {d : Datacenter} {u : Url}
    (hu : x.dataUrl ("datacenters/" ++ d.id ++ "/hosts") = .ok u) :
    Inquires (x.hosts d) u [] fun _ => False := by
  have hall : (x.hosts d).Only (Call.Within x fun path pairs =>
      path = "datacenters/" ++ d.id ++ "/hosts" ∧ pairs = []) := only_hosts ⟨rfl, rfl⟩
  exact inquires_data hu hall fun _ _ hd => .inl hd

theorem inquires_hostTags {id : String} {u : Url} (hu : x.dataUrl ("hosts/" ++ id) = .ok u) :
    Inquires (x.hostTags id) u [] fun v =>
      ∃ kind target, v = (x.place ["tags"]).withPairs [("targetType", kind), ("targetId", target)] := by
  have hall : (x.hostTags id).Only (Call.Within x fun path pairs =>
      path = "hosts/" ++ id ∧ pairs = [] ∨
        path = "tags" ∧ ∃ kind target, pairs = [("targetType", kind), ("targetId", target)]) :=
    only_hostTags (.inl ⟨rfl, rfl⟩) fun kind target => .inr ⟨rfl, kind, target, rfl⟩
  refine inquires_data hu hall ?_
  rintro path pairs (hd | ⟨rfl, kind, target, rfl⟩)
  · exact .inl hd
  · refine .inr fun v hv => ⟨kind, target, ?_⟩
    rw [dataUrl_tags] at hv
    cases hv
    rfl

end Places

/-- Requests for the machines or the hosts of a datacenter and for a host go to the path that holds its
identifier as one segment exactly if it can be pasted, and then nothing but the pairs of the lookup is
added. Different identifiers are different segments. -/
theorem asked_at_segment_iff (x : Client) :
    (∀ lookup d key, ∃ u,
      Inquires (x.machine lookup d key) u [(lookup.word, Client.lookupValue lookup key)]
        (fun _ => False) ∧
      (u.path = (x.place ["datacenters", segment d.id, "vms"]).path ↔
        Pastable (some "vms".toList) d.id.toList) ∧
      (Pastable (some "vms".toList) d.id.toList → u = x.place ["datacenters", segment d.id, "vms"])) ∧
    (∀ d, ∃ u, Inquires (x.hosts d) u [] (fun _ => False) ∧
      (u.path = (x.place ["datacenters", segment d.id, "hosts"]).path ↔
        Pastable (some "hosts".toList) d.id.toList) ∧
      (Pastable (some "hosts".toList) d.id.toList → u = x.place ["datacenters", segment d.id, "hosts"])) ∧
    (∀ id, ∃ u,
      Inquires (x.hostTags id) u [] (fun v => ∃ kind target,
        v = (x.place ["tags"]).withPairs [("targetType", kind), ("targetId", target)]) ∧
      (u.path = (x.place ["hosts", segment id]).path ↔ Pastable none id.toList) ∧
      (Pastable none id.toList → u = x.place ["hosts", segment id])) ∧
    ∀ id id', segment id = segment id' → id = id' := by
  refine ⟨?_, ?_, ?_, fun id id' => segment_injective⟩
  · intro lookup d key
    have hpath : ("datacenters/" ++ d.id ++ "/vms").toList =
        "datacenters".toList ++ '/' :: (d.id.toList ++ behind (some "vms".toList)) := by simp [behind]
    obtain ⟨u, hu, hiff, hpastes⟩ := dataUrl_pasted x (by decide) (by decide) hpath
    exact ⟨u, inquires_machine hu, hiff, hpastes⟩
  · intro d
    have hpath : ("datacenters/" ++ d.id ++ "/hosts").toList =
        "datacenters".toList ++ '/' :: (d.id.toList ++ behind (some "hosts".toList)) := by
      simp [behind]
    obtain ⟨u, hu, hiff, hpastes⟩ := dataUrl_pasted x (by decide) (by decide) hpath
    exact ⟨u, inquires_hosts hu, hiff, hpastes⟩
  · intro id
    have hpath : ("hosts/" ++ id).toList = "hosts".toList ++ '/' :: (id.toList ++ behind none) := by
      simp [behind]
    obtain ⟨u, hu, hiff, hpastes⟩ := dataUrl_pasted x (by decide) (by simp) hpath
    exact ⟨u, inquires_hostTags hu, hiff, hpastes⟩

/-- A space in an identifier is encoded. -/
theorem asked_at_segment_iff_spaced :
    Pastable (some "hosts".toList) "dc 1".toList ∧
      ∃ es q, (deskClient.hosts ⟨"dc 1", "DC1", "a"⟩).Asks es (.send q) ∧
        q.url = deskClient.place ["datacenters", "dc%201", "hosts"] := by
  have hplain : ("dc 1".toList.all fun c => !isSpecial c) = true := by decide
  have hpastes : Pastable (some "hosts".toList) "dc 1".toList :=
    ⟨fun c hc => by simpa using List.all_eq_true.mp hplain c hc, by decide, by decide, nofun⟩
  obtain ⟨-, hhosts, -, -⟩ := asked_at_segment_iff deskClient
  obtain ⟨u, hasks, -, hu⟩ := hhosts ⟨"dc 1", "DC1", "a"⟩
  have hsegment : segment "dc 1" = "dc%201" := by decide
  have hsent := hasks.at_once ⟨"t-1", "admin"⟩
  rw [hu hpastes, hsegment] at hsent
  exact ⟨hpastes, _, _, hsent, rfl⟩

/-- An identifier with a slash takes up two segments, dots lead out of the collection, and what looks
encoded is taken for it. -/
theorem not_asked_at_segment :
    (∃ es q, (deskClient.hosts ⟨"a/b", "DC1", "a"⟩).Asks es (.send q) ∧ q.isPost = false ∧
      q.url.path = ["api", "v1", "datacenters", "a", "b", "hosts"] ∧
      q.url.path ≠ (deskClient.place ["datacenters", segment "a/b", "hosts"]).path) ∧
    deskClient.dataUrl ("datacenters/" ++ ".." ++ "/hosts") = .ok (deskClient.place ["hosts"]) ∧
    deskClient.dataUrl ("datacenters/" ++ "a%20b" ++ "/hosts") =
      deskClient.dataUrl ("datacenters/" ++ "a b" ++ "/hosts") := by
  have hurl := fun id => dataUrl_of_descends deskClient (descends_of_isDataPath (.hosts id))
  refine ⟨?_, ?_, ?_⟩
  · have hsplit : deskClient.dataUrl ("datacenters/" ++ "a/b" ++ "/hosts") =
        .ok (deskClient.place ["datacenters", "a", "b", "hosts"]) := by
      rw [hurl]
      rfl
    have hasks := inquires_hosts (d := ⟨"a/b", "DC1", "a"⟩) hsplit
    exact ⟨_, _, hasks.at_once ⟨"t-1", "admin"⟩, rfl, rfl, by decide⟩
  · rw [hurl]
    rfl
  · rw [hurl, hurl]
    rfl

end NodeAtlas.Http
