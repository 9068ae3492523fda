import NodeAtlas.Dict
import NodeAtlas.Http.State

/-!
# Scripted servers

Servers that give prepared responses, for trials without an endpoint. Such a server may be out of
reach, in which case no request arrives.
-/

namespace NodeAtlas.Http

/-- A prepared response: what comes back, or nothing if the connection is dropped. -/
abbrev Prepared := Option Response

/-- A server with prepared responses. -/
structure Script where
  /-- Requests arrive. -/
  reachable : Bool
  /-- The responses to come. -/
  pending : List Prepared := []
  /-- Responses to requests for data by the token they carry, which do not get used up. -/
  byToken : Dict Prepared := ∅
  /-- The requests that have arrived, the last one first. -/
  arrived : List Request := []

namespace Script

/-- The response when none is prepared. -/
def unprepared : Prepared := some ⟨500, "no response scripted"⟩

/-- Takes a request. -/
def receive : Server Script := fun r s =>
  if !s.reachable then (none, s)
  else
    let s := { s with arrived := r :: s.arrived }
    match if r.isPost then none else s.byToken.find? (r.authorization.getD "") with
    | some prepared => (prepared, s)
    | none =>
      match s.pending with
      | [] => (unprepared, s)
      | prepared :: pending => (prepared, { s with pending := pending })

end Script

end NodeAtlas.Http
