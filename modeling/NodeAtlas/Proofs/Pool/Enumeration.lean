import NodeAtlas.Proofs.Pool.Producers

/-!
# Going through endpoints

What the producers of all searches have in common. They connect one endpoint after another, scan it, and
explore the datacenters that the scan finds, each search in its own way. A failure is recorded and never
keeps the producer from the endpoints that follow.
-/

namespace NodeAtlas.Pool

open Protocol

/-- What a producer did about an endpoint. -/
inductive Visit where
  /-- No attempt to connect succeeded. -/
  | unreachable (endpoint : Endpoint) (calls : List interface.Exchange) (failure : Error)
  /-- The endpoint was connected and its datacenters were looked up. -/
  | scanned (endpoint : Endpoint) (connecting scanning : List interface.Exchange) (scan : Scan)

namespace Visit

def endpoint : Visit → Endpoint
  | unreachable e _ _ => e
  | scanned e _ _ _ => e

/-- The datacenters that the scan found. -/
def found : Visit → List Datacenter
  | unreachable .. => []
  | scanned _ _ _ s => s.found

/-- The failures that were recorded. -/
def failures : Visit → List Error
  | unreachable _ _ err => [err]
  | scanned _ _ _ s => s.failures

/-- The exchanges before something is recorded or put on the queue. -/
def calls : Visit → List interface.Exchange
  | unreachable _ calls _ => calls
  | scanned _ connecting scanning _ => connecting ++ scanning

/-- The exchanges of the producer before it explores datacenters. -/
def opening {T : Type} (v : Visit) : List (Search.interface interface T).Exchange :=
  ⟨.isOver, false⟩ :: v.calls.map Search.outward ++ v.failures.map fun e => ⟨.record e, ()⟩

/-- The visit is one that the pool can make: connecting was tried as often as it is configured to
be, and only then given up; and the scan is one of the endpoint. -/
def Possible (p : Pool) : Visit → Prop
  | unreachable e calls err => (p.connectWithRetry e).Yields calls (.error err)
  | scanned e connecting scanning s =>
    (p.connectWithRetry e).Yields connecting (.ok ()) ∧ (scan e).Yields scanning s

end Visit

variable {T : Type} {p : Pool}
  {explore : Endpoint → List Datacenter → Protocol (Search.interface interface T) Bool}
  {e : Endpoint} {es : List Endpoint} {ys : List (Search.interface interface T).Exchange}

/-- Goes through endpoints with a way to explore datacenters, which tells whether more are wanted. -/
def enumerate (p : Pool)
    (explore : Endpoint → List Datacenter → Protocol (Search.interface interface T) Bool) :
    List Endpoint → Protocol (Search.interface interface T) Unit
  | [] => return
  | e :: es => do
    if ← Search.ask .isOver then return
    match ← Search.lift (p.connectWithRetry e) with
    | .error err =>
      Search.ask (.record err)
      enumerate p explore es
    | .ok () =>
      let s ← Search.lift (scan e)
      recordAll s.failures
      if ← explore e s.found then enumerate p explore es

/-- The exchanges are those in which the datacenters that a visit found were explored to the end. -/
def Visit.Explored
    (explore : Endpoint → List Datacenter → Protocol (Search.interface interface T) Bool) :
    Visit → List (Search.interface interface T).Exchange → Prop
  | unreachable .., zs => zs = []
  | scanned e _ _ s, zs => (explore e s.found).Yields zs true

/-! ## A visit -/

/-- A producer that is not told to stop visits the first endpoint and goes on to the others. -/
theorem exists_visit_of_yields {u : Unit}
    (hmore : ∀ ds zs more, (explore e ds).Yields zs more → (∀ y ∈ zs, Search.Unhurried y) →
      more = true)
    (h : (p.enumerate explore (e :: es)).Yields ys u) (hu : ∀ y ∈ ys, Search.Unhurried y) :
    ∃ (v : Visit) (zs rest : List (Search.interface interface T).Exchange), v.endpoint = e ∧
      v.Possible p ∧ v.Explored explore zs ∧ ys = v.opening ++ zs ++ rest ∧
      (p.enumerate explore es).Yields rest u := by
  rw [enumerate] at h
  obtain ⟨_, ended, ys₁, hask, h₁, rfl⟩ := yields_bind_iff.mp h
  rw [Search.yields_ask_iff] at hask
  subst hask
  obtain rfl : ended = false := hu ⟨.isOver, ended⟩ (by simp)
  rw [if_neg Bool.false_ne_true] at h₁
  obtain ⟨_, reached, ys₂, hconnect, h₂, rfl⟩ := yields_bind_iff.mp h₁
  obtain ⟨xs, hxs, rfl⟩ := Search.yields_lift_iff.mp hconnect
  cases reached with
  | error err =>
    obtain ⟨_, _, rest, hrecord, h₃, rfl⟩ := yields_bind_iff.mp h₂
    rw [Search.yields_ask_iff.mp hrecord]
    refine ⟨.unreachable e xs err, [], rest, rfl, hxs, rfl, ?_, h₃⟩
    simp [Visit.opening, Visit.calls, Visit.failures]
  | ok _ =>
    obtain ⟨_, s, ys₃, hscan, h₃, rfl⟩ := yields_bind_iff.mp h₂
    obtain ⟨xs', hxs', rfl⟩ := Search.yields_lift_iff.mp hscan
    obtain ⟨_, _, ys₄, hrecord, h₄, rfl⟩ := yields_bind_iff.mp h₃
    rw [eq_of_yields_recordAll hrecord] at hu ⊢
    obtain ⟨zs, more, rest, hexplore, h₅, rfl⟩ := yields_bind_iff.mp h₄
    obtain rfl := hmore s.found zs more hexplore fun y hy => hu y (by simp [hy])
    refine ⟨.scanned e xs xs' s, zs, rest, rfl, ⟨hxs, hxs'⟩, hexplore, ?_, h₅⟩
    simp [Visit.opening, Visit.calls, Visit.failures]

/-! ## Why calls are made -/

/-- The occasions on which a producer makes a call about an endpoint after these exchanges. -/
inductive Juncture (p : Pool)
    (explore : Endpoint → List Datacenter → Protocol (Search.interface interface T) Bool)
    (e : Endpoint) (ys : List (Search.interface interface T).Exchange) :
    Search.Call interface T → Prop where
  /-- It asks whether the search is over. -/
  | poll : Juncture p explore e ys .isOver
  /-- It is about to connect or to scan. -/
  | outer (c : Call) : Juncture p explore e ys (.outer c)
  /-- The endpoint could not be reached. -/
  | unreachable {calls : List interface.Exchange} {err : Error}
      (hcalls : (p.connectWithRetry e).Yields calls (.error err))
      (hys : calls.map Search.outward <:+: ys) : Juncture p explore e ys (.record err)
  /-- The scan failed in part. -/
  | missing {calls : List interface.Exchange} {s : Scan} {err : Error}
      (hcalls : (scan e).Yields calls s) (hys : calls.map Search.outward <:+: ys)
      (herr : err ∈ s.failures) : Juncture p explore e ys (.record err)
  /-- What the scan found is being explored. -/
  | explored {calls : List interface.Exchange} {s : Scan}
      {gs : List (Search.interface interface T).Exchange} {d : Search.Call interface T}
      (hcalls : (scan e).Yields calls s) (hys : calls.map Search.outward <:+: ys) (hgs : gs <:+ ys)
      (hd : (explore e s.found).Asks gs d) : Juncture p explore e ys d

/-- A call is one about the first endpoint or one about the others. -/
theorem juncture_of_asks {d : Search.Call interface T}
    (h : (p.enumerate explore (e :: es)).Asks ys d) :
    Juncture p explore e ys d ∨
      ∃ xs zs, (p.enumerate explore es).Asks zs d ∧ ys = xs ++ zs := by
  rw [enumerate] at h
  rcases asks_bind_iff.mp h with h₁ | ⟨xs₁, ended, ys₁, -, h₁, rfl⟩
  · rw [(Search.asks_ask_iff.mp h₁).2]
    exact .inl .poll
  cases ended with
  | true => exact (not_asks_ret _ _ _ h₁).elim
  | false =>
    rw [if_neg Bool.false_ne_true] at h₁
    rcases asks_bind_iff.mp h₁ with h₂ | ⟨xs₂, reached, ys₂, hconnect, h₂, rfl⟩
    · obtain ⟨c, rfl⟩ := Search.outer_of_asks_lift h₂
      exact .inl (.outer c)
    obtain ⟨calls, hcalls, rfl⟩ := Search.yields_lift_iff.mp hconnect
    cases reached with
    | error err =>
      rcases asks_bind_iff.mp h₂ with h₃ | ⟨xs₃, _, ys₃, -, h₃, rfl⟩
      · rw [(Search.asks_ask_iff.mp h₃).2]
        exact .inl (.unreachable hcalls ⟨xs₁, ys₂, by simp⟩)
      · exact .inr ⟨xs₁ ++ (calls.map Search.outward ++ xs₃), ys₃, h₃, by simp⟩
    | ok _ =>
      rcases asks_bind_iff.mp h₂ with h₃ | ⟨xs₃, s, ys₃, hscan, h₃, rfl⟩
      · obtain ⟨c, rfl⟩ := Search.outer_of_asks_lift h₃
        exact .inl (.outer c)
      obtain ⟨calls', hcalls', rfl⟩ := Search.yields_lift_iff.mp hscan
      rcases asks_bind_iff.mp h₃ with h₄ | ⟨xs₄, _, ys₄, -, h₄, rfl⟩
      · obtain ⟨err, herr, rfl⟩ := mem_of_asks_recordAll h₄
        exact .inl (.missing hcalls' ⟨xs₁ ++ calls.map Search.outward, ys₃, by simp⟩ herr)
      rcases asks_bind_iff.mp h₄ with h₅ | ⟨xs₅, more, ys₅, -, h₅, rfl⟩
      · refine .inl (.explored hcalls' ?_ ?_ h₅)
        · exact ⟨xs₁ ++ calls.map Search.outward, xs₄ ++ ys₄, by simp⟩
        · exact ⟨xs₁ ++ (calls.map Search.outward ++ (calls'.map Search.outward ++ xs₄)), by simp⟩
      cases more with
      | false => exact (not_asks_ret _ _ _ h₅).elim
      | true =>
        exact .inr ⟨xs₁ ++ (calls.map Search.outward ++ (calls'.map Search.outward ++
          (xs₄ ++ xs₅))), ys₅, h₅, by simp⟩

end NodeAtlas.Pool
