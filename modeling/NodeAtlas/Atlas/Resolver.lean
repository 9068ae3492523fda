import NodeAtlas.Atlas.Watch

/-!
# Resolving

An atlas asks its own pool: its calls are answered by searches and by the calls of the pool.
-/

namespace NodeAtlas.Atlas

variable {σ : Type}

/-- Answers what an atlas asks for, given what answers the calls of its pool. -/
def resolver (a : Atlas) (h : Pool.interface.Handler σ) : Resolver.interface.Handler σ
  | .find lookup id, s => a.pool.find h lookup id s
  | .zone tenant host, s => (a.pool.zoneOfHost tenant host a.labels).run h s
  | .pause milliseconds, s => h (.sleep milliseconds) s

def run {α : Type} (a : Atlas) (h : Pool.interface.Handler σ) (p : Protocol Resolver.interface α)
    (s : σ) : α × σ :=
  p.run (a.resolver h) s

end NodeAtlas.Atlas
