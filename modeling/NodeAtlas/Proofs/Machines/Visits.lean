import NodeAtlas.Proofs.Pool.Enumeration

/-!
# Visits to endpoints

What the producer of a search for a machine does about every endpoint. Unless it is told that the
search is over, it visits all endpoints in their order, whatever fails on the way, and puts every
datacenter that a scan finds on the queue. It never puts another one there.
-/

namespace NodeAtlas.Pool

open Protocol

namespace Visit

/-- The tasks for the queue: what the scan found. -/
def sites : Visit → List Site
  | unreachable .. => []
  | scanned e _ _ s => s.found.map fun d => ⟨e, d⟩

/-- All exchanges of the producer. -/
def exchanges (v : Visit) : List (Search.interface interface Site).Exchange :=
  ⟨.isOver, false⟩ :: v.calls.map Search.outward ++ v.failures.map (fun e => ⟨.record e, ()⟩) ++
    v.sites.map fun t => ⟨.push t, true⟩

end Visit

variable {p : Pool}

/-- Puts the datacenters of an endpoint on the queue. -/
def exploreSites (e : Endpoint) (ds : List Datacenter) :
    Protocol (Search.interface interface Site) Bool :=
  pushAll (ds.map fun d => ⟨e, d⟩)

theorem produceSites_eq (p : Pool) (es : List Endpoint) :
    p.produceSites es = p.enumerate exploreSites es := by
  induction es with
  | nil => rfl
  | cons e es ih =>
    unfold produceSites enumerate
    rw [ih]
    rfl

/-! ## All endpoints are visited -/

/-- Exploring a scan to its end puts all of its datacenters on the queue. -/
theorem eq_of_explored_sites {v : Visit} {zs : List (Search.interface interface Site).Exchange}
    (h : v.Explored exploreSites zs) (hu : ∀ y ∈ zs, Search.Unhurried y) :
    zs = v.sites.map fun t => ⟨.push t, true⟩ := by
  cases v with
  | unreachable => exact h
  | scanned => exact (pushAll_of_unhurried h hu).2

/-- A producer that is not told to stop visits all endpoints. -/
theorem exists_visits {es : List Endpoint} {ys : List (Search.interface interface Site).Exchange}
    {u : Unit} (h : (p.produceSites es).Yields ys u) (hu : ∀ y ∈ ys, Search.Unhurried y) :
    ∃ vs : List Visit, vs.map Visit.endpoint = es ∧ (∀ v ∈ vs, v.Possible p) ∧
      ys = vs.flatMap Visit.exchanges := by
  rw [produceSites_eq] at h
  induction es generalizing ys with
  | nil => exact ⟨[], rfl, by simp, (yields_pure_iff.mp h).1⟩
  | cons e es ih =>
    obtain ⟨v, zs, rest, rfl, hpossible, hexplored, rfl, hrest⟩ :=
      exists_visit_of_yields (fun _ _ _ hzs huzs => (pushAll_of_unhurried hzs huzs).1) h hu
    obtain ⟨vs, hvs, hpossibles, rfl⟩ := ih hrest fun y hy => hu y (List.mem_append_right _ hy)
    have hzs := eq_of_explored_sites hexplored fun y hy => hu y (by simp [hy])
    refine ⟨v :: vs, by simp [hvs], ?_, ?_⟩
    · exact List.forall_mem_cons.mpr ⟨hpossible, hpossibles⟩
    · rw [List.flatMap_cons, hzs]
      rfl

/-! ## Why calls are made -/

/-- The occasions on which a producer makes a call after these exchanges. -/
inductive Occasion (p : Pool) (es : List Endpoint)
    (ys : List (Search.interface interface Site).Exchange) :
    Search.Call interface Site → Prop where
  /-- It asks whether the search is over. -/
  | poll : Occasion p es ys .isOver
  /-- It is about to connect or to scan. -/
  | outer (c : Call) : Occasion p es ys (.outer c)
  /-- An endpoint could not be reached. -/
  | unreachable {e : Endpoint} {calls : List interface.Exchange} {err : Error} (he : e ∈ es)
      (hcalls : (p.connectWithRetry e).Yields calls (.error err))
      (hys : calls.map Search.outward <:+: ys) : Occasion p es ys (.record err)
  /-- A scan failed in part. -/
  | missing {e : Endpoint} {calls : List interface.Exchange} {s : Scan} {err : Error} (he : e ∈ es)
      (hcalls : (scan e).Yields calls s) (hys : calls.map Search.outward <:+: ys)
      (herr : err ∈ s.failures) : Occasion p es ys (.record err)
  | found {e : Endpoint} {calls : List interface.Exchange} {s : Scan} {d : Datacenter} (he : e ∈ es)
      (hcalls : (scan e).Yields calls s) (hys : calls.map Search.outward <:+: ys)
      (hd : d ∈ s.found) : Occasion p es ys (.push ⟨e, d⟩)

theorem Occasion.mono {es fs : List Endpoint} {d : Search.Call interface Site}
    {ys zs : List (Search.interface interface Site).Exchange} (h : Occasion p es ys d) (hes : es ⊆ fs)
    (hys : ys <:+: zs) : Occasion p fs zs d := by
  cases h with
  | poll => exact .poll
  | outer c => exact .outer c
  | unreachable he hcalls hys' => exact .unreachable (hes he) hcalls (hys'.trans hys)
  | missing he hcalls hys' herr => exact .missing (hes he) hcalls (hys'.trans hys) herr
  | found he hcalls hys' hd => exact .found (hes he) hcalls (hys'.trans hys) hd

/-- Every call of the producer has its occasion. -/
theorem occasion_of_asks {es : List Endpoint} {d : Search.Call interface Site}
    {ys : List (Search.interface interface Site).Exchange} (h : (p.produceSites es).Asks ys d) :
    Occasion p es ys d := by
  rw [produceSites_eq] at h
  induction es generalizing ys with
  | nil => exact (not_asks_ret _ _ _ h).elim
  | cons e es ih =>
    rcases juncture_of_asks h with hfirst | ⟨xs, zs, hzs, rfl⟩
    · cases hfirst with
      | poll => exact .poll
      | outer c => exact .outer c
      | unreachable hcalls hys => exact .unreachable List.mem_cons_self hcalls hys
      | missing hcalls hys herr => exact .missing List.mem_cons_self hcalls hys herr
      | explored hcalls hys _ hd =>
        obtain ⟨t, ht, rfl⟩ := mem_of_asks_pushAll hd
        obtain ⟨dc, hdc, rfl⟩ := List.mem_map.mp ht
        exact .found List.mem_cons_self hcalls hys hdc
    · exact (ih hzs).mono (List.subset_cons_self e es) (List.suffix_append xs zs).isInfix

end NodeAtlas.Pool
