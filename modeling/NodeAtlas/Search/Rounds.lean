import NodeAtlas.Search.Step
import NodeAtlas.Search.Zones

/-!
# Rounds in a world

The rounds that find a machine or a zone, made one after another in a world. Each of them is a whole
search, whose parts may move in any order; what happened in it is kept in a report.
-/

namespace NodeAtlas

open NodeAtlas.Search

/-- A round as it went. -/
structure Search.Report (ρ : Type) (I : Interface) (T R : Type) where
  round : ρ
  /-- What happened in it. -/
  events : List (Event I T R)
  /-- How it ended. -/
  outcome : Outcome R

namespace Pool

/-- A report on a round that looks for a machine. -/
abbrev Round.Report := Search.Report Round Pool.interface Site Found

/-- Rounds one after another, with the reports on those that were made. -/
def rounds (p : Pool) (w : World interface) : World Round.interface where
  State := w.State × List Round.Report
  answers s r o s' := ∃ es, Ends (r.search p) w s.1 es o s'.1 ∧ s'.2 = s.2 ++ [⟨r, es, o⟩]

/-- A report on a round that looks for a zone. -/
abbrev ZoneRound.Report := Search.Report ZoneRound Pool.interface HostSite Place

/-- The calls that find a zone one after another, with the reports on the rounds among them. -/
def zoneRounds (p : Pool) (w : World interface) : World zoneInterface where
  State := w.State × List ZoneRound.Report
  answers s c r s' :=
    match c, r with
    | .pool c, r => w.answers s.1 c r s'.1 ∧ s'.2 = s.2
    | .round q, o => ∃ es, Ends (q.search p) w s.1 es o s'.1 ∧ s'.2 = s.2 ++ [⟨q, es, o⟩]

/-- The rounds that may be needed to find a machine. -/
def roundsFor (lookup : Lookup) (id : String) : List Round :=
  match lookup with
  | .uuid => [⟨.uuid, canonicalize id⟩]
  | .ip => [⟨.ip, id⟩]
  | .name => [⟨.name, id⟩, ⟨.ip, id⟩]

end Pool

end NodeAtlas
