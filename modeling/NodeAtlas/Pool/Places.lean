import NodeAtlas.Pool.Connect

/-!
# Places

All the places where machines can be: the datacenters that count of all endpoints that can be
reached.
-/

namespace NodeAtlas

/-- A datacenter of a tenant's endpoint. -/
structure Place where
  tenant : String
  /-- The address of the endpoint. -/
  server : String
  datacenter : Datacenter
  deriving DecidableEq, Repr, Inhabited

/-- The order of listings: by address, then by the name of the datacenter. -/
def Place.before (a b : Place) : Bool :=
  if a.server = b.server then decide (a.datacenter.name ≤ b.datacenter.name)
  else decide (a.server < b.server)

namespace Pool

/-- The places on the given endpoints in their order. An endpoint that cannot be
reached has none. -/
def placesOf (p : Pool) : List Endpoint → Protocol interface (List Place)
  | [] => return []
  | e :: es => do
    match ← p.connectWithRetry e with
    | .error _ => placesOf p es
    | .ok () =>
      let s ← scan e
      let rest ← placesOf p es
      return s.found.map (fun d => ⟨e.tenant, e.host, d⟩) ++ rest

/-- All places, sorted. -/
def places (p : Pool) : Protocol interface (List Place) := do
  return (← p.placesOf p.list).mergeSort Place.before

end Pool

end NodeAtlas
