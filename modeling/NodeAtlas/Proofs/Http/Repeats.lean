import Mathlib.Data.List.Nodup
import NodeAtlas.Proofs.Http.Datacenters
import NodeAtlas.Proofs.Machines.Find
import NodeAtlas.Proofs.Pool.Listing

/-!
# Datacenters named twice

A client takes each datacenter from the listing of its server. A scan looks the names that count on an
endpoint up one by one, and nobody asks whether two of them are the same or denote the same datacenter.
Where they do, it is found, listed and searched twice.
-/

namespace NodeAtlas.Http

open Protocol Pool Json

/-- Whenever the server has listed its datacenters to the client, it was these. -/
def Client.Presents (x : Client) (ds : List Datacenter) (y : interface.Exchange) : Prop :=
  ∀ q r listed, y = ⟨.send q, r⟩ → q.isPost = false → x.dataUrl "datacenters" = .ok q.url →
    judgeData x.server (asList Datacenter.ofJson?) r = .ok (some listed) →
      listed.map (fun d => { d with endpoint := x.server }) = ds

/-- A session answers from a listing, which may be out of reach. -/
def AnswersFrom (ds : List Datacenter) : Session.interface.Exchange → Prop
  | ⟨.listDatacenters, .ok listed⟩ => listed = ds ∨ listed = []
  | ⟨.getDatacenter n, .ok d⟩ => firstOf n ds = some d
  | _ => True

/-- Every tenant has its own listing. -/
def PoolAnswersFrom (ds : String → List Datacenter) : Pool.interface.Exchange → Prop
  | ⟨.session tenant c, r⟩ => AnswersFrom (ds tenant) ⟨c, r⟩
  | _ => True

def Fleet.Presents (clients : String → Client) (ds : String → List Datacenter) :
    Fleet.interface.Exchange → Prop
  | ⟨.client tenant c, r⟩ => (clients tenant).Presents (ds tenant) ⟨c, r⟩
  | _ => True

/-- No two of the names denote one datacenter. -/
def Apart (ds : List Datacenter) (names : List String) : Prop :=
  names.Pairwise fun m n => ∀ d, firstOf m ds = some d → firstOf n ds ≠ some d

/-- A scan finds all datacenters of the listing, or what is looked up under the names as far as the lookups
are answered. -/
inductive Drawn (ds : List Datacenter) (names : List String) (s : Scan) : Prop where
  | all (h : names = []) (hfound : s.found = ds ∨ s.found = [])
  | named (h : names ≠ []) (answered : List String) (hsub : answered.Sublist names)
      (hall : s.failures = [] → answered = names)
      (hfound : s.found.map some = answered.map (firstOf · ds))

/-! ## Clients -/

section Client

variable {x : Client} {ds : List Datacenter} {es : List interface.Exchange}

theorem exists_send_of_data {α : Type} {read : Json → Option α} {path : String}
    {query : List (String × String)} {v : Option α}
    (h : (x.data read path query).Yields es (.ok v)) :
    ∃ u q r, x.dataUrl path = .ok u ∧ q.url = u.withPairs query ∧ q.isPost = false ∧
      ⟨.send q, r⟩ ∈ es ∧ judgeData x.server read r = .ok v := by
  have hget : ∀ {u : Net.Url} {token : Option String} {fs : List interface.Exchange}
      {r : Option Response}, (get u query token).Yields fs r →
      ∃ q : Request, q.url = u.withPairs query ∧ q.isPost = false ∧ ⟨.send q, r⟩ ∈ fs := by
    intro u token fs r hget
    obtain ⟨r', gs, hret, rfl⟩ := yields_call_iff.mp hget
    obtain ⟨rfl, rfl⟩ := yields_ret_iff.mp hret
    exact ⟨_, rfl, rfl, List.mem_singleton_self _⟩
  unfold Client.data at h
  obtain ⟨fs₁, opened, gs₁, -, h₁, rfl⟩ := yields_bind_iff.mp h
  cases opened with
  | error err => cases (yields_pure_iff.mp h₁).2
  | ok _ =>
    cases hu : x.dataUrl path with
    | error err =>
      simp only [hu] at h₁
      cases (yields_pure_iff.mp h₁).2
    | ok u =>
      simp only [hu] at h₁
      obtain ⟨fs₂, token, gs₂, -, h₂, rfl⟩ := yields_bind_iff.mp h₁
      obtain ⟨fs₃, r, gs₃, hfirst, h₃, rfl⟩ := yields_bind_iff.mp h₂
      -- If the first response refuses the session, the second one is judged in its place.
      split at h₃
      · obtain ⟨fs₄, again, gs₄, -, h₄, rfl⟩ := yields_bind_iff.mp h₃
        cases again with
        | error err => cases (yields_pure_iff.mp h₄).2
        | ok _ =>
          obtain ⟨fs₅, token', gs₅, -, h₅, rfl⟩ := yields_bind_iff.mp h₄
          obtain ⟨fs₆, r', gs₆, hsecond, hret, rfl⟩ := yields_bind_iff.mp h₅
          obtain ⟨-, hv⟩ := yields_pure_iff.mp hret
          obtain ⟨q, hurl, hpost, hmem⟩ := hget hsecond
          exact ⟨u, q, r', rfl, hurl, hpost, by simp [hmem], hv.symm⟩
      · obtain ⟨-, hv⟩ := yields_pure_iff.mp h₃
        obtain ⟨q, hurl, hpost, hmem⟩ := hget hfirst
        exact ⟨u, q, r, rfl, hurl, hpost, by simp [hmem], hv.symm⟩

theorem eq_listing_or_nil {listed : List Datacenter} (h : x.datacenters.Yields es (.ok listed))
    (hes : ∀ y ∈ es, x.Presents ds y) : listed = ds ∨ listed = [] := by
  unfold Client.datacenters at h
  obtain ⟨fs, v, gs, hdata, hret, rfl⟩ := yields_bind_iff.mp h
  cases v with
  | error err => cases (yields_pure_iff.mp hret).2
  | ok v =>
    obtain ⟨-, hlisted⟩ := yields_pure_iff.mp hret
    obtain rfl := Except.ok.inj hlisted
    cases v with
    | none => exact .inr rfl
    | some ds' =>
      obtain ⟨u, q, r, hu, hurl, hpost, hmem, hjudge⟩ := exists_send_of_data hdata
      have hq : x.dataUrl "datacenters" = .ok q.url := hurl ▸ hu
      exact .inl (hes _ (List.mem_append_left _ hmem) q r ds' rfl hpost hq hjudge)

/-- A client answers from the listing of its server. -/
theorem answersFrom_of_answer {c : Session.Call} {r : Session.Reply c}
    (h : (x.answer c).Yields es r) (hes : ∀ y ∈ es, x.Presents ds y) : AnswersFrom ds ⟨c, r⟩ := by
  cases c with
  | listDatacenters =>
    cases r with
    | error err => trivial
    | ok listed => exact eq_listing_or_nil h hes
  | getDatacenter n =>
    cases r with
    | error err => trivial
    | ok d =>
      obtain ⟨listed, hlisted, hfirst⟩ := yields_datacenter_iff.mp h
      rcases eq_listing_or_nil hlisted hes with rfl | rfl
      · exact hfirst
      · cases hfirst
  | _ => trivial

end Client

theorem Fleet.exists_answersFrom {clients : String → Client} {ds : String → List Datacenter} {α : Type}
    {p : Protocol Pool.interface α} {es : List Fleet.interface.Exchange} {a : α}
    (h : (ofPool clients p).Yields es a) (hes : ∀ y ∈ es, Fleet.Presents clients ds y) :
    ∃ xs, p.Yields xs a ∧ ∀ y ∈ xs, PoolAnswersFrom ds y := by
  obtain ⟨parts, hyields, hparts, rfl⟩ := yields_interpret_iff.mp h
  refine ⟨_, hyields, fun y hy => ?_⟩
  obtain ⟨c, r⟩ := y
  cases c with
  | session tenant c =>
    obtain ⟨fs, hanswer, hpart⟩ := exists_answer_of_mem hparts hy
    exact answersFrom_of_answer hanswer fun z hz =>
      hes (wire tenant z) (hpart.subset (List.mem_map_of_mem hz))
  | _ => trivial

/-! ## Scans -/

section Scan

variable {ds : List Datacenter} {names : List String} {s : Scan}

theorem name_and_id_of_denotes {m n : String} {d : Datacenter} (hm : firstOf m ds = some d)
    (hn : firstOf n ds = some d) : m = n ∨ (m = d.name ∧ n = d.id) ∨ (m = d.id ∧ n = d.name) := by
  obtain ⟨-, hm⟩ := name_or_id_of_firstOf hm
  obtain ⟨-, hn⟩ := name_or_id_of_firstOf hn
  rcases hm with rfl | rfl
  · rcases hn with rfl | rfl
    · exact .inl rfl
    · exact .inr (.inl ⟨rfl, rfl⟩)
  · rcases hn with rfl | rfl
    · exact .inr (.inr ⟨rfl, rfl⟩)
    · exact .inl rfl

theorem map_some_answers {answers : List (String × Result Datacenter)}
    (h : ∀ x ∈ answers, ∀ d, x.2 = .ok d → firstOf x.1 ds = some d) :
    (answers.filterMap (·.2.toOption)).map some =
      ((answers.filter (·.2.isOk)).map (·.1)).map (firstOf · ds) := by
  induction answers with
  | nil => rfl
  | cons x answers ih =>
    obtain ⟨n, answer⟩ := x
    obtain ⟨hfirst, hrest⟩ := List.forall_mem_cons.mp h
    cases answer with
    | error err => exact ih hrest
    | ok d =>
      have hd : firstOf n ds = some d := hfirst d rfl
      exact congrArg₂ List.cons hd.symm (ih hrest)

theorem drawn_of_scanned {e : Endpoint} {xs : List Pool.interface.Exchange} (h : Scanned e xs s)
    (hxs : ∀ y ∈ xs, ∀ c r, y = ⟨.session e.tenant c, r⟩ → AnswersFrom ds ⟨c, r⟩) :
    Drawn ds e.datacenters s := by
  cases h with
  | all h r =>
    refine .all h ?_
    cases r with
    | error err => exact .inr rfl
    | ok listed => exact hxs _ (List.mem_singleton_self _) _ _ rfl
  | named h answers hnames =>
    have hanswers : ∀ x ∈ answers, ∀ d, x.2 = .ok d → firstOf x.1 ds = some d := by
      rintro ⟨n, answer⟩ hx d rfl
      exact hxs _ (List.mem_map_of_mem hx) _ _ rfl
    refine .named h _ ?_ (fun hnone => ?_) (map_some_answers hanswers)
    · rw [← hnames]
      exact List.filter_sublist.map _
    · have hok : ∀ x ∈ answers, x.2.isOk = true := by
        rintro ⟨n, answer⟩ hx
        cases answer with
        | ok d => rfl
        | error err => cases List.filterMap_eq_nil_iff.mp hnone _ hx
      rw [List.filter_eq_self.mpr hok, hnames]

theorem nodup_ids_iff {answered : List String} {found : List Datacenter}
    (hids : (ds.map (·.id)).Nodup) (hfound : found.map some = answered.map (firstOf · ds)) :
    (found.map (·.id)).Nodup ↔ Apart ds answered := by
  have hmem : ∀ d ∈ found, d ∈ ds := by
    intro d hd
    have hsome : some d ∈ answered.map (firstOf · ds) := hfound ▸ List.mem_map_of_mem hd
    obtain ⟨n, -, hn⟩ := List.mem_map.mp hsome
    exact (name_or_id_of_firstOf hn).1
  have happart : Apart ds answered ↔ found.Nodup := by
    calc Apart ds answered
      _ ↔ (answered.map (firstOf · ds)).Pairwise fun a b => ∀ d, a = some d → b ≠ some d := by
        rw [List.pairwise_map, Apart]
      _ ↔ found.Pairwise fun a b => ∀ d, some a = some d → some b ≠ some d := by
        rw [← hfound, List.pairwise_map]
      _ ↔ found.Nodup := by
        refine List.Pairwise.iff fun a b => ?_
        constructor
        · intro hdiff heq
          exact hdiff a rfl (congrArg some heq.symm)
        · rintro hne d hd hd'
          exact hne (Option.some.inj (hd.trans hd'.symm))
  rw [happart]
  constructor
  · intro hnodup
    exact hnodup.of_map
  · intro hnodup
    refine hnodup.map_on fun a ha b hb hid => ?_
    exact List.inj_on_of_nodup_map hids (hmem a ha) (hmem b hb) hid

theorem Apart.sublist {ns ms : List String} (h : Apart ds ms) (hsub : ns.Sublist ms) : Apart ds ns :=
  List.Pairwise.sublist hsub h

/-- A scan by names that are apart finds nothing twice, and a scan that misses nothing finds something twice
if they are not. -/
theorem Drawn.nodup_ids (h : Drawn ds names s) (hids : (ds.map (·.id)).Nodup) :
    (Apart ds names → (s.found.map (·.id)).Nodup) ∧
      (s.failures = [] → ((s.found.map (·.id)).Nodup ↔ Apart ds names)) := by
  cases h with
  | all hnone hfound =>
    have hnodup : (s.found.map (·.id)).Nodup := by
      rcases hfound with hfound | hfound
      · rwa [hfound]
      · rw [hfound]
        exact List.nodup_nil
    have happart : Apart ds names := by
      rw [hnone]
      exact .nil
    exact ⟨fun _ => hnodup, fun _ => ⟨fun _ => happart, fun _ => hnodup⟩⟩
  | named _ answered hsub hall hfound =>
    have hiff := nodup_ids_iff hids hfound
    exact ⟨fun happart => hiff.mpr (happart.sublist hsub), fun hnone => by rwa [hall hnone] at hiff⟩

end Scan

/-! ## Tours -/

section Tour

variable {p : Pool} {ds : String → List Datacenter} {vs : List Visit}

/-- The datacenters that a visit finds, each by its tenant and its identifier. -/
def pairsOf (v : Visit) : List (String × String) := v.found.map fun d => (v.endpoint.tenant, d.id)

/-- What is found on a tour over sessions that answer from listings. -/
structure Gathered (p : Pool) (ds : String → List Datacenter) (vs : List Visit)
    (pairs : List (String × String)) : Prop where
  tour : p.Tour vs
  drawn : ∀ e calls calls' s, .scanned e calls calls' s ∈ vs → Drawn (ds e.tenant) e.datacenters s
  nodup_iff : pairs.Nodup ↔ ∀ v ∈ vs, (v.found.map (·.id)).Nodup
  nodup_of_apart : (∀ e ∈ p.list, Apart (ds e.tenant) e.datacenters) → pairs.Nodup

theorem nodup_pairsOf_iff (hvs : vs.Pairwise fun v u => v.endpoint.tenant ≠ u.endpoint.tenant) :
    (vs.flatMap pairsOf).Nodup ↔ ∀ v ∈ vs, (v.found.map (·.id)).Nodup := by
  have hvisit : ∀ v, (pairsOf v).Nodup ↔ (v.found.map (·.id)).Nodup := by
    intro v
    have hpairs : pairsOf v = (v.found.map (·.id)).map (Prod.mk v.endpoint.tenant) := by
      rw [List.map_map]
      rfl
    rw [hpairs, List.nodup_map_iff (Prod.mk_right_injective _)]
  have hdisjoint : vs.Pairwise (Function.onFun List.Disjoint pairsOf) := by
    refine hvs.imp fun {v u} hne => ?_
    rw [Function.onFun, List.disjoint_left]
    intro x hx hx'
    obtain ⟨d, -, rfl⟩ := List.mem_map.mp hx
    obtain ⟨d', -, heq⟩ := List.mem_map.mp hx'
    exact hne (congrArg Prod.fst heq).symm
  rw [List.nodup_flatMap]
  simp only [hvisit, hdisjoint, and_true]

theorem gathered_of_tour (hids : ∀ t, ((ds t).map (·.id)).Nodup)
    (hlist : p.list.Pairwise fun a b => a.tenant < b.tenant) (htour : p.Tour vs)
    (hcalls : ∀ v ∈ vs, ∀ y ∈ v.calls, PoolAnswersFrom ds y) {pairs : List (String × String)}
    (hpairs : pairs.Perm (vs.flatMap pairsOf)) : Gathered p ds vs pairs := by
  have htenants : vs.Pairwise fun v u => v.endpoint.tenant ≠ u.endpoint.tenant := by
    rw [← htour.endpoints, List.pairwise_map] at hlist
    refine hlist.imp fun {v u} hlt heq => ?_
    rw [heq] at hlt
    exact String.lt_irrefl _ hlt
  have hdrawn : ∀ e calls calls' s, Visit.scanned e calls calls' s ∈ vs →
      Drawn (ds e.tenant) e.datacenters s := by
    intro e calls calls' s hv
    refine drawn_of_scanned (yields_scan_iff.mp (htour.possible _ hv).2) ?_
    rintro y hy c r rfl
    exact hcalls _ hv _ (List.mem_append_right calls hy)
  have hiff : pairs.Nodup ↔ ∀ v ∈ vs, (v.found.map (·.id)).Nodup :=
    hpairs.nodup_iff.trans (nodup_pairsOf_iff htenants)
  refine ⟨htour, hdrawn, hiff, fun happart => hiff.mpr fun v hv => ?_⟩
  cases v with
  | unreachable => exact List.nodup_nil
  | scanned e calls calls' s =>
    have he : e ∈ p.list := htour.endpoints ▸ List.mem_map_of_mem hv
    exact ((hdrawn e calls calls' s hv).nodup_ids (hids _)).1 (happart e he)

end Tour

theorem flatMap_places (vs : List Visit) :
    (vs.flatMap Visit.places).map (fun x => (x.tenant, x.datacenter.id)) = vs.flatMap pairsOf := by
  rw [List.map_flatMap]
  refine congrArg (fun f => vs.flatMap f) (funext fun v => ?_)
  rw [Visit.places, List.map_map]
  rfl

theorem flatMap_sites (vs : List Visit) :
    (vs.flatMap Visit.sites).map (fun t => (t.endpoint.tenant, t.datacenter.id)) =
      vs.flatMap pairsOf := by
  rw [List.map_flatMap]
  refine congrArg (fun f => vs.flatMap f) (funext fun v => ?_)
  cases v with
  | unreachable => rfl
  | scanned e calls calls' s =>
    rw [Visit.sites, List.map_map]
    rfl

/-- A datacenter is found twice on an endpoint exactly if two of the names that count there denote it, and
two names that do so are the same or its name and its identifier. Whatever the comma-separated list of
names, a scan by a client looks each of them up in the listing of its server. As the tenants are distinct,
a listing of places or a round without a match has a datacenter of a tenant twice exactly if a scan has. -/
theorem found_twice_iff_named_twice {σ : Type} {endpoints : List Endpoint}
    {factory : Endpoint → Result σ} {managers : List String} {discovery : Config.Discovery}
    {p : Pool} {sessions : Dict σ}
    (hp : create endpoints factory managers discovery = .ok (p, sessions))
    (clients : String → Client) {ds : String → List Datacenter}
    (hids : ∀ t, ((ds t).map (·.id)).Nodup) :
    (∀ (e : Endpoint) list es s, (Fleet.ofPool clients (scan (e.withDatacenters list))).Yields es s →
      (∀ y ∈ es, Fleet.Presents clients ds y) →
        Drawn (ds e.tenant) (Endpoint.datacenterList list) s ∧
        (Apart (ds e.tenant) (Endpoint.datacenterList list) → (s.found.map (·.id)).Nodup) ∧
        (s.failures = [] →
          ((s.found.map (·.id)).Nodup ↔ Apart (ds e.tenant) (Endpoint.datacenterList list)))) ∧
    (∀ t m n d, firstOf m (ds t) = some d → firstOf n (ds t) = some d →
      m = n ∨ (m = d.name ∧ n = d.id) ∨ (m = d.id ∧ n = d.name)) ∧
    (∀ es places, (Fleet.ofPool clients p.places).Yields es places →
      (∀ y ∈ es, Fleet.Presents clients ds y) →
        ∃ vs, Gathered p ds vs (places.map fun x => (x.tenant, x.datacenter.id))) ∧
    (∀ t c es r, ((clients t).answer c).Yields es r → (∀ y ∈ es, (clients t).Presents (ds t) y) →
      AnswersFrom (ds t) ⟨c, r⟩) ∧
    ∀ (w : World Pool.interface) r, (∀ s c a s', w.answers s c a s' → PoolAnswersFrom ds ⟨c, a⟩) →
      Round.Made p w r → Round.Unmatched r → ∃ vs,
        Gathered p ds vs ((Search.takes r.events).map fun t => (t.endpoint.tenant, t.datacenter.id)) := by
  have hlist := ascending_of_create hp
  refine ⟨?_, fun t m n d => name_and_id_of_denotes, ?_, fun t c es r => answersFrom_of_answer, ?_⟩
  · intro e list es s h hes
    obtain ⟨xs, hxs, hanswers⟩ := Fleet.exists_answersFrom h hes
    have hdrawn : Drawn (ds e.tenant) (Endpoint.datacenterList list) s := by
      refine drawn_of_scanned (yields_scan_iff.mp hxs) ?_
      rintro y hy c r rfl
      exact hanswers _ hy
    obtain ⟨hapart, hiff⟩ := hdrawn.nodup_ids (hids e.tenant)
    exact ⟨hdrawn, hapart, hiff⟩
  · intro es places h hes
    obtain ⟨xs, hxs, hanswers⟩ := Fleet.exists_answersFrom h hes
    obtain ⟨vs, htour, rfl, hlisting⟩ := yields_places_iff.mp hxs
    refine ⟨vs, gathered_of_tour hids hlist htour (fun v hv y hy => ?_) ?_⟩
    · exact hanswers y (List.mem_flatMap.mpr ⟨v, hv, hy⟩)
    · rw [← flatMap_places]
      exact hlisting.perm.map _
  · intro w r hw hmade hunmatched
    obtain ⟨vs, hvs, hthorough⟩ := thorough_of_made hmade hunmatched
    obtain ⟨world, after, hends⟩ := hmade
    refine ⟨vs, gathered_of_tour hids hlist ⟨hvs, hthorough.possible⟩ (fun v hv y hy => ?_) ?_⟩
    · have hexchange : Search.outward y ∈ Search.exchanges r.events := by
        rw [hthorough.visited]
        refine List.mem_flatMap.mpr ⟨v, hv, ?_⟩
        have hcall := List.mem_map_of_mem (f := Search.outward (T := Site)) hy
        simp [Visit.exchanges, hcall]
      obtain ⟨s, s', hanswer⟩ := Search.answers_of_ends hends (.inl (Search.asked_mem hexchange))
      exact hw s y.1 y.2 s' hanswer
    · rw [hthorough.taken, flatMap_sites]

/-! ## A directory of two datacenters -/

def directoryListing : String :=
  "\x7b\"data\":[\x7b\"id\":\"dc-1\",\"name\":\"DC1\"\x7d," ++
    "\x7b\"id\":\"dc-2\",\"name\":\"DC2\"\x7d]\x7d"

/-- A server that accepts every token and has this listing. -/
def directory : Server Unit := fun q s =>
  if q.isLogin then (some ⟨200, "\x7b\"data\":\x7b\"token\":\"t-2\"\x7d\x7d"⟩, s)
  else (some ⟨200, directoryListing⟩, s)

def inDirectory : List Datacenter := [⟨"dc-1", "DC1", "a"⟩, ⟨"dc-2", "DC2", "a"⟩]

/-- The datacenters that a scan by the names of a list finds there. -/
def foundInDirectory (list : String) : Scan :=
  ((Fleet.ofPool (fun _ => deskClient) (Pool.scan (particular.withDatacenters list))).run
    (Fleet.handle fun _ => directory) fun _ => walker).1

theorem presents_directory {w w' : String → ClientState Unit} {es : List Fleet.interface.Exchange}
    (h : (Fleet.world fun _ => directory).Admits w es w') :
    ∀ y ∈ es, Fleet.Presents (fun _ => deskClient) (fun _ => inDirectory) y := by
  have hlisting : ∀ q : Request, q.isPost = false →
      (directory q ()).1 = some ⟨200, directoryListing⟩ := by
    intro q hpost
    have hnot : q.isLogin = false := by simp [Request.isLogin, hpost]
    rw [directory, hnot]
    rfl
  have hjudge : judgeData deskClient.server (asList Datacenter.ofJson?)
      (some ⟨200, directoryListing⟩) = .ok (some (inDirectory.map fun d => { d with endpoint := "" })) := by
    decide +kernel
  intro y hy
  obtain ⟨s, s', hanswer⟩ := h.answers y hy
  obtain ⟨c, r⟩ := y
  cases c with
  | client tenant c =>
    obtain ⟨t, hclient, -⟩ := hanswer
    rintro q r listed heq hpost - hlisted
    cases heq
    obtain ⟨rfl, -⟩ := send_of_answers hclient
    rw [hlisting q hpost, hjudge] at hlisted
    cases hlisted
    rfl
  | _ => trivial

theorem solo_foundInDirectory (list : String) : ∃ es w,
    (Fleet.ofPool (fun _ => deskClient) (scan (particular.withDatacenters list))).Solo
      (Fleet.world fun _ => directory) (fun _ => walker) es (foundInDirectory list) w := by
  obtain ⟨es, hes⟩ := exists_solo_run (w := Fleet.world fun _ => directory)
    (Fleet.fleet_answers_handle fun _ => directory)
    (Fleet.ofPool (fun _ => deskClient) (scan (particular.withDatacenters list))) fun _ => walker
  exact ⟨es, _, hes⟩

/-- By the name of one datacenter and the identifier of the other, both are found; by the name of one and
that name or its identifier, it is found again. -/
theorem scans_directory :
    ((foundInDirectory "DC1, dc-2").found = inDirectory ∧
      (foundInDirectory "DC1, dc-2").failures = []) ∧
    ∀ list ∈ ["DC1,DC1", "DC1, dc-1"],
      (foundInDirectory list).found = [⟨"dc-1", "DC1", "a"⟩, ⟨"dc-1", "DC1", "a"⟩] ∧
        (foundInDirectory list).failures = [] := by
  decide +kernel

/-- By name and identifier of two datacenters, each is found once; by those of one, it is found twice. -/
theorem found_twice_iff_named_twice_directory :
    Apart inDirectory (Endpoint.datacenterList "DC1, dc-2") ∧
      ((foundInDirectory "DC1, dc-2").found.map (·.id)).Nodup ∧
      ¬ ((foundInDirectory "DC1, dc-1").found.map (·.id)).Nodup ∧
      ¬ Apart inDirectory (Endpoint.datacenterList "DC1, dc-1") := by
  obtain ⟨p, sessions, hp⟩ : ∃ (p : Pool) (sessions : Dict Unit),
      create [particular] (fun _ => .ok ()) [] {} = .ok (p, sessions) := ⟨_, _, rfl⟩
  have hids : (inDirectory.map (·.id)).Nodup := by simp [inDirectory]
  obtain ⟨hscan, -⟩ := found_twice_iff_named_twice hp (fun _ => deskClient) fun _ => hids
  have hiff : ∀ list, (foundInDirectory list).failures = [] →
      (((foundInDirectory list).found.map (·.id)).Nodup ↔
        Apart inDirectory (Endpoint.datacenterList list)) := by
    intro list hnone
    obtain ⟨es, w, hes⟩ := solo_foundInDirectory list
    obtain ⟨-, -, hiff⟩ := hscan particular list es _ hes.yields (presents_directory hes.admits)
    exact hiff hnone
  obtain ⟨⟨hboth, hnone⟩, hagain⟩ := scans_directory
  obtain ⟨hone, hnone'⟩ := hagain "DC1, dc-1" (by simp)
  have hnodup : ((foundInDirectory "DC1, dc-2").found.map (·.id)).Nodup := by
    rw [hboth]
    exact hids
  have htwice : ¬ ((foundInDirectory "DC1, dc-1").found.map (·.id)).Nodup := by
    rw [hone]
    simp
  exact ⟨(hiff _ hnone).mp hnodup, hnodup, htwice, mt (hiff _ hnone').mpr htwice⟩

/-- The datacenters differ in identifier and name, and still a list that names one of them twice makes a
scan find it twice. -/
theorem exists_found_twice :
    (inDirectory.map (·.id)).Nodup ∧ (inDirectory.map (·.name)).Nodup ∧
    ∀ list ∈ ["DC1,DC1", "DC1, dc-1"], ∃ es w s,
      (Fleet.ofPool (fun _ => deskClient) (scan (particular.withDatacenters list))).Solo
        (Fleet.world fun _ => directory) (fun _ => walker) es s w ∧
      (∀ y ∈ es, Fleet.Presents (fun _ => deskClient) (fun _ => inDirectory) y) ∧
      s.found = [⟨"dc-1", "DC1", "a"⟩, ⟨"dc-1", "DC1", "a"⟩] := by
  refine ⟨by simp [inDirectory], by simp [inDirectory], fun list hlist => ?_⟩
  obtain ⟨es, w, hes⟩ := solo_foundInDirectory list
  have hfound := (scans_directory.2 list hlist).1
  exact ⟨es, w, _, hes, presents_directory hes.admits, hfound⟩

end NodeAtlas.Http
