import NodeAtlas.Proofs.Http.Rejection
import NodeAtlas.Proofs.Http.Shutdown
import NodeAtlas.Proofs.Pool.Listing

/-!
# Datacenters by name

A client looks a datacenter up among those that its server lists, by name or by identifier, and the first
one counts. So a datacenter is found by its name unless another one comes before it whose identifier is
that name. The names that count on an endpoint are looked up in the same way.
-/

namespace NodeAtlas.Http

open Protocol

/-- Before all datacenters of that name comes one of another name that has it as its identifier. -/
def Shadowed (n : String) (ds : List Datacenter) : Prop :=
  ∃ before d after, ds = before ++ d :: after ∧ d.id = n ∧ d.name ≠ n ∧ ∀ d' ∈ before, d'.name ≠ n

/-- The first datacenter of that name or identifier. -/
def firstOf (n : String) (ds : List Datacenter) : Option Datacenter :=
  ds.find? fun d => d.name == n || d.id == n

section First

variable {n : String} {ds : List Datacenter} {d : Datacenter}

theorem name_or_id_of_firstOf (h : firstOf n ds = some d) : d ∈ ds ∧ (d.name = n ∨ d.id = n) := by
  have hmatch := List.find?_some h
  rw [Bool.or_eq_true, beq_iff_eq, beq_iff_eq] at hmatch
  exact ⟨List.mem_of_find?_eq_some h, hmatch⟩

theorem exists_firstOf (h : ∃ d ∈ ds, d.name = n) : ∃ d, firstOf n ds = some d := by
  obtain ⟨d, hd, hname⟩ := h
  refine Option.isSome_iff_exists.mp (List.find?_isSome.mpr ⟨d, hd, ?_⟩)
  rw [hname, BEq.rfl, Bool.true_or]

/-- The first datacenter has the name unless that is shadowed. -/
theorem name_firstOf_iff (h : firstOf n ds = some d) : d.name = n ↔ ¬ Shadowed n ds := by
  constructor
  · rintro hname ⟨before, d', after, rfl, hid, hne, hbefore⟩
    rw [firstOf, List.find?_append] at h
    cases hfirst : before.find? fun d => d.name == n || d.id == n with
    | some a =>
      rw [hfirst, Option.some_or] at h
      obtain rfl := Option.some.inj h
      exact hbefore a (List.mem_of_find?_eq_some hfirst) hname
    | none =>
      rw [hfirst, Option.none_or, List.find?_cons_of_pos (by simp [hid])] at h
      obtain rfl := Option.some.inj h
      exact hne hname
  · intro hclear
    by_contra hne
    obtain ⟨-, before, after, hds, hbefore⟩ := List.find?_eq_some_iff_append.mp h
    have hid : d.id = n := (name_or_id_of_firstOf h).2.resolve_left hne
    refine hclear ⟨before, d, after, hds, hid, hne, fun d' hd' hname => ?_⟩
    have hmiss := hbefore d' hd'
    simp [hname] at hmiss

end First

/-! ## Lookups -/

section Lookup

variable {x : Client} {n : String} {ds : List Datacenter} {d : Datacenter}
  {es : List interface.Exchange}

/-- A lookup asks for the listing and for nothing else, and takes the first datacenter from it. -/
theorem yields_datacenter_iff : (x.datacenter n).Yields es (.ok d) ↔
    ∃ ds, x.datacenters.Yields es (.ok ds) ∧ firstOf n ds = some d := by
  unfold Client.datacenter
  rw [yields_bind_iff]
  constructor
  · rintro ⟨fs, listed, gs, hlisted, hrest, rfl⟩
    cases listed with
    | error err => cases (yields_pure_iff.mp hrest).2
    | ok ds =>
      dsimp only at hrest
      split at hrest
      · rename_i d' hfirst
        obtain ⟨rfl, hd⟩ := yields_pure_iff.mp hrest
        rw [Except.ok.inj hd, List.append_nil]
        exact ⟨ds, hlisted, hfirst⟩
      · cases (yields_pure_iff.mp hrest).2
  · rintro ⟨ds, hlisted, hfirst⟩
    refine ⟨es, .ok ds, [], hlisted, ?_, (List.append_nil es).symm⟩
    unfold firstOf at hfirst
    simp only [hfirst]
    exact .ret _

/-- The listing determines what a lookup returns. -/
theorem eq_of_listing (h : x.datacenters.Yields es (.ok ds)) (hfirst : firstOf n ds = some d)
    {r : Result Datacenter} : (x.datacenter n).Yields es r ↔ r = .ok d := by
  have hfound : (x.datacenter n).Yields es (.ok d) := yields_datacenter_iff.mpr ⟨ds, h, hfirst⟩
  constructor
  · intro hr
    exact hr.unique hfound
  · rintro rfl
    exact hfound

end Lookup

/-! ## Names that count -/

namespace Fleet

variable {clients : String → Client} {e : Endpoint} {es : List interface.Exchange} {α : Type}

/-- A client makes the same exchanges in its fleet as by itself. -/
theorem yields_ofClient_iff {tenant : String} {p : Protocol Http.interface α} {a : α} :
    (ofClient tenant p).Yields es a ↔ ∃ fs, p.Yields fs a ∧ es = fs.map (wire tenant) := by
  constructor
  · intro h
    induction p generalizing es with
    | ret b =>
      obtain ⟨rfl, rfl⟩ := yields_ret_iff.mp h
      exact ⟨[], .ret a, rfl⟩
    | call c next ih =>
      obtain ⟨r, gs, hnext, rfl⟩ := yields_call_iff.mp h
      obtain ⟨fs, hfs, rfl⟩ := ih r hnext
      exact ⟨⟨c, r⟩ :: fs, yields_call_iff.mpr ⟨r, fs, hfs, rfl⟩, rfl⟩
  · rintro ⟨fs, h, rfl⟩
    induction h with
    | ret a => exact .ret a
    | call r _ ih => exact yields_call_iff.mpr ⟨r, _, ih, rfl⟩

/-- A call on a session that was carried out took these exchanges of its client. -/
theorem exists_answer_of_mem {parts : List (Pool.interface.Exchange × List interface.Exchange)}
    (hparts : ∀ x ∈ parts, (carry clients x.1.1).Yields x.2 x.1.2) {tenant : String} {c : Session.Call}
    {r : Session.Reply c} (hmem : ⟨.session tenant c, r⟩ ∈ parts.map (·.1)) :
    ∃ fs, ((clients tenant).answer c).Yields fs r ∧ fs.map (wire tenant) <:+: parts.flatMap (·.2) := by
  obtain ⟨⟨_, gs⟩, hx, rfl⟩ := List.mem_map.mp hmem
  obtain ⟨fs, hanswer, rfl⟩ := yields_ofClient_iff.mp (hparts _ hx)
  have hpart : fs.map (wire tenant) ∈ parts.map (·.2) := List.mem_map_of_mem (f := (·.2)) hx
  refine ⟨fs, hanswer, ?_⟩
  rw [List.flatMap_def]
  exact List.infix_of_mem_flatten hpart

/-- Each datacenter that is found was looked up under one of the names. -/
theorem exists_lookup_of_scan {s : Pool.Scan} (hnames : e.datacenters ≠ [])
    (h : (ofPool clients (Pool.scan e)).Yields es s) {d : Datacenter} (hd : d ∈ s.found) :
    ∃ n ∈ e.datacenters, ∃ fs,
      ((clients e.tenant).datacenter n).Yields fs (.ok d) ∧ fs.map (wire e.tenant) <:+: es := by
  obtain ⟨parts, hscan, hparts, rfl⟩ := yields_interpret_iff.mp h
  generalize hcalls : parts.map (·.1) = calls at hscan
  cases Pool.yields_scan_iff.mp hscan with
  | all hnone => exact absurd hnone hnames
  | named _ answers hanswers =>
    obtain ⟨⟨n, answer⟩, hx, hok⟩ := List.mem_filterMap.mp hd
    cases answer with
    | error err => cases hok
    | ok d' =>
      obtain rfl := Option.some.inj hok
      have hn : n ∈ e.datacenters := hanswers ▸ List.mem_map_of_mem hx
      have hasked : Pool.asked e (n, .ok d') ∈ parts.map (·.1) := hcalls ▸ List.mem_map_of_mem hx
      obtain ⟨fs, hlookup, hpart⟩ := exists_answer_of_mem hparts hasked
      exact ⟨n, hn, fs, hlookup, hpart⟩

end Fleet

/-- A datacenter is found by its name unless the name is shadowed. If some datacenter that the server lists
has the name, the lookup returns one from the listing, and that one has the name exactly if no other
datacenter shadows it. Likewise, a scan by the names that count on an endpoint finds only datacenters that
are the first ones for such a name in a listing. -/
theorem named_unless_shadowed (clients : String → Client) :
    (∀ tenant n es ds, (clients tenant).datacenters.Yields es (.ok ds) → (∃ d ∈ ds, d.name = n) →
      ∃ d ∈ ds, (∀ r, ((clients tenant).datacenter n).Yields es r ↔ r = .ok d) ∧
        (d.name = n ∨ d.id = n) ∧ (d.name = n ↔ ¬ Shadowed n ds)) ∧
    ∀ e es s, e.datacenters ≠ [] → (Fleet.ofPool clients (Pool.scan e)).Yields es s →
      ∀ d ∈ s.found, ∃ n ∈ e.datacenters, ∃ fs ds, fs.map (Fleet.wire e.tenant) <:+: es ∧
        (clients e.tenant).datacenters.Yields fs (.ok ds) ∧ d ∈ ds ∧ (d.name = n ∨ d.id = n) ∧
          (d.name = n ↔ ¬ Shadowed n ds) := by
  refine ⟨?_, ?_⟩
  · intro tenant n es ds hlisted hnamed
    obtain ⟨d, hfirst⟩ := exists_firstOf hnamed
    obtain ⟨hmem, hmatch⟩ := name_or_id_of_firstOf hfirst
    exact ⟨d, hmem, fun r => eq_of_listing hlisted hfirst, hmatch, name_firstOf_iff hfirst⟩
  · intro e es s hnames hscan d hd
    obtain ⟨n, hn, fs, hlookup, hpart⟩ := Fleet.exists_lookup_of_scan hnames hscan hd
    obtain ⟨ds, hlisted, hfirst⟩ := yields_datacenter_iff.mp hlookup
    obtain ⟨hmem, hmatch⟩ := name_or_id_of_firstOf hfirst
    exact ⟨n, hn, fs, ds, hpart, hlisted, hmem, hmatch, name_firstOf_iff hfirst⟩

/-! ## A name that is an identifier elsewhere -/

/-- A listing of a datacenter whose identifier is the name of another one. -/
def renamedListing : String :=
  "\x7b\"data\":[\x7b\"id\":\"DC1\",\"name\":\"Old\"\x7d," ++
    "\x7b\"id\":\"dc-2\",\"name\":\"DC1\"\x7d]\x7d"

/-- A server that accepts every token and has this listing. -/
def renamed : Server Unit := fun q s =>
  if q.isLogin then (some ⟨200, "\x7b\"data\":\x7b\"token\":\"t-2\"\x7d\x7d"⟩, s)
  else (some ⟨200, renamedListing⟩, s)

def bothDatacenters : List Datacenter := [⟨"DC1", "Old", "a"⟩, ⟨"dc-2", "DC1", "a"⟩]

theorem renamed_lists :
    (deskClient.datacenters.run (ClientState.handle renamed) walker).1 = .ok bothDatacenters := by
  decide +kernel

/-- On this endpoint only the datacenter of that name counts. -/
def particular : Endpoint :=
  ⟨"a", "a", 443, ⟨"admin", "s3cret"⟩, globalSecretRef, false, ["DC1"], [.ipv4]⟩

theorem renamed_scanned :
    ((Fleet.ofPool (fun _ => deskClient) (Pool.scan particular)).run
      (Fleet.handle fun _ => renamed) fun _ => walker).1.found = [⟨"DC1", "Old", "a"⟩] := by
  decide +kernel

/-- The name is shadowed, and the datacenter of the other name is found. -/
theorem named_unless_shadowed_renamed :
    (∃ es, deskClient.datacenters.Yields es (.ok bothDatacenters) ∧
      ∃ d ∈ bothDatacenters, (∀ r, (deskClient.datacenter "DC1").Yields es r ↔ r = .ok d) ∧
        (d.name = "DC1" ↔ ¬ Shadowed "DC1" bothDatacenters)) ∧
    ∃ es s, (Fleet.ofPool (fun _ => deskClient) (Pool.scan particular)).Yields es s ∧
      ∃ d ∈ s.found, ∃ n ∈ particular.datacenters, ∃ fs ds,
        deskClient.datacenters.Yields fs (.ok ds) ∧ d ∈ ds ∧ (d.name = n ↔ ¬ Shadowed n ds) := by
  obtain ⟨hlookup, hscan⟩ := named_unless_shadowed fun _ => deskClient
  constructor
  · obtain ⟨es, hes⟩ := exists_yields_run (ClientState.handle renamed) deskClient.datacenters walker
    rw [renamed_lists] at hes
    obtain ⟨d, hd, hreturns, -, hname⟩ := hlookup "a" "DC1" es bothDatacenters hes
      ⟨⟨"dc-2", "DC1", "a"⟩, by decide, rfl⟩
    exact ⟨es, hes, d, hd, hreturns, hname⟩
  · obtain ⟨es, hes⟩ := exists_yields_run (Fleet.handle fun _ => renamed)
      (Fleet.ofPool (fun _ => deskClient) (Pool.scan particular)) fun _ => walker
    have hfound : (⟨"DC1", "Old", "a"⟩ : Datacenter) ∈ _ := renamed_scanned ▸ List.mem_singleton_self _
    obtain ⟨n, hn, fs, ds, -, hlisted, hmem, -, hname⟩ := hscan _ es _ (by decide) hes _ hfound
    exact ⟨es, _, hes, _, hfound, n, hn, fs, ds, hlisted, hmem, hname⟩

/-- A lookup can return a datacenter of another name though the server lists one of the name that is looked
up. If only this name counts on an endpoint, only the other datacenter is searched. -/
theorem exists_misnamed :
    (∃ es s, (deskClient.answer .listDatacenters).Solo (ClientState.world renamed) walker es
        (.ok [⟨"DC1", "Old", "a"⟩, ⟨"dc-2", "DC1", "a"⟩]) s ∧
      (deskClient.answer (.getDatacenter "DC1")).Solo (ClientState.world renamed) walker es
        (.ok ⟨"DC1", "Old", "a"⟩) s) ∧
    ∃ es w s, (Fleet.ofPool (fun _ => deskClient) (Pool.scan particular)).Solo
        (Fleet.world fun _ => renamed) (fun _ => walker) es s w ∧
      particular.datacenters = ["DC1"] ∧ s.found = [⟨"DC1", "Old", "a"⟩] := by
  constructor
  · obtain ⟨es, hes⟩ := exists_solo_run (w := ClientState.world renamed) (answers_handle renamed)
      deskClient.datacenters walker
    rw [renamed_lists] at hes
    generalize (deskClient.datacenters.run (ClientState.handle renamed) walker).2 = s at hes
    have hfirst : firstOf "DC1" bothDatacenters = some ⟨"DC1", "Old", "a"⟩ := by decide
    exact ⟨es, s, hes, yields_datacenter_iff.mpr ⟨_, hes.yields, hfirst⟩, hes.admits⟩
  · obtain ⟨es, hes⟩ := exists_solo_run (w := Fleet.world fun _ => renamed)
      (Fleet.fleet_answers_handle fun _ => renamed)
      (Fleet.ofPool (fun _ => deskClient) (Pool.scan particular)) fun _ => walker
    have hfound := renamed_scanned
    generalize (Fleet.ofPool (fun _ => deskClient) (Pool.scan particular)).run
      (Fleet.handle fun _ => renamed) (fun _ => walker) = out at hes hfound
    exact ⟨es, out.2, out.1, hes, rfl, hfound⟩

end NodeAtlas.Http
