import NodeAtlas.Search.Trace
import NodeAtlas.Search.Zones

/-!
# Crowds

The operations of a pool side by side. Each of them goes on by itself or waits for a search, and the
producer and the workers of a search go on side by side as well. Any of them can be dropped at any time,
and whoever is dropped loses the lock for connecting.
-/

namespace NodeAtlas

open NodeAtlas.Search

/-- The protocol holds the lock: it can give it back before it takes it. -/
inductive Protocol.Holds {I : Interface} (l : Locking I) {α : Type} : Protocol I α → Prop where
  | here {c : I.Call} {next : I.Reply c → Protocol I α} (hgives : l.gives c = true) :
      Holds l (.call c next)
  | later {c : I.Call} {next : I.Reply c → Protocol I α} (htakes : l.takes c = false)
      (hgives : l.gives c = false) (r : I.Reply c) (h : Holds l (next r)) : Holds l (.call c next)

def Protocol.discard {I : Interface} {α : Type} (q : Protocol I α) : Protocol I Unit :=
  q.bind fun _ => .ret ()

/-- The world that answers only these calls. -/
abbrev World.only {I : Interface} (w : World I) (P : I.Call → Prop) : World I :=
  ⟨w.State, fun s c r s' => P c ∧ w.answers s c r s'⟩

/-- What is left of the work on a task. -/
def Search.Phase.rest? {I : Interface} {T R : Type} : Phase I T R → Option (Work I R)
  | .busy _ rest => some rest
  | _ => none

namespace Pool

/-! ## Searches -/

/-- Something that a search looks for. -/
inductive Quest where
  | machine (r : Round)
  | zone (r : ZoneRound)

namespace Quest

abbrev Task : Quest → Type
  | machine _ => Site
  | zone _ => HostSite

abbrev Match : Quest → Type
  | machine _ => Found
  | zone _ => Place

def search (p : Pool) : (k : Quest) → Search Pool.interface k.Task k.Match
  | machine r => r.search p
  | zone r => r.search p

def endpoint : (k : Quest) → k.Task → Endpoint
  | machine _ => Site.endpoint
  | zone _ => fun h => h.site.endpoint

end Quest

/-! ## Strands -/

namespace Strand

/-- The calls of a strand: those of the pool, those of the producer of a search, and whole searches. -/
inductive Call where
  | pool (c : Pool.Call)
  | quest (k : Quest)
  /-- Puts a task at an endpoint on the queue. -/
  | push (e : Endpoint)
  | record (e : Error)
  /-- Asks whether no more tasks are wanted. -/
  | isOver

abbrev Reply : Call → Type
  | .pool c => Pool.Reply c
  | .quest k => Outcome k.Match
  | .push _ | .isOver => Bool
  | .record _ => Unit

abbrev interface : Interface := ⟨Call, Reply⟩

/-- Strands take turns at connecting. -/
def turns : Locking interface where
  takes
    | .pool c => Pool.turns.takes c
    | _ => false
  gives
    | .pool c => Pool.turns.gives c
    | _ => false

section

variable {T α : Type}

def ask (c : Call) : Protocol interface (Reply c) := .call c .ret

def ofPool : Protocol Pool.interface α → Protocol interface α :=
  Protocol.interpret fun c => ask (.pool c)

/-- A producer of tasks as a strand, given the endpoints of the tasks. -/
def ofProducer (endpoint : T → Endpoint) :
    Protocol (Search.interface Pool.interface T) α → Protocol interface α :=
  Protocol.interpret fun
    | .outer c => ask (.pool c)
    | .push t => ask (.push (endpoint t))
    | .record e => ask (.record e)
    | .isOver => ask .isOver

def ofRounds : Protocol Round.interface α → Protocol interface α :=
  Protocol.interpret fun r => ask (.quest (.machine r))

def ofZones : Protocol zoneInterface α → Protocol interface α :=
  Protocol.interpret fun
    | .pool c => ask (.pool c)
    | .round r => ask (.quest (.zone r))

end

end Strand

/-- What is left of an operation, of a producer or of the work on a task. -/
abbrev Strand : Type := Protocol Strand.interface Unit

inductive Operation where
  | connect (tenant : String)
  | verify
  | logout
  | places
  | find (lookup : Lookup) (id : String)
  | findZone (r : ZoneRound)
  /-- Reads zone and region of a host. -/
  | zoneOfHost (tenant host : String) (labels : Config.Labels)

def Operation.strand (p : Pool) : Operation → Strand
  | .connect tenant => (Strand.ofPool (p.connect tenant)).discard
  | .verify => (Strand.ofPool p.verify).discard
  | .logout => Strand.ofPool p.logout
  | .places => (Strand.ofPool p.places).discard
  | .find lookup id => (Strand.ofRounds (seek lookup id)).discard
  | .findZone r => (Strand.ofZones (p.seekZone r)).discard
  | .zoneOfHost tenant host labels => (Strand.ofPool (p.zoneOfHost tenant host labels)).discard

/-! ## Crowds -/

/-- An operation on its way. -/
structure Activity (W : Type) where
  /-- What is left of the operation itself, unless it was abandoned. -/
  own : Option Strand
  /-- The search that the operation waits for, or that it has left behind. -/
  search : Option ((k : Quest) × Search.State Pool.interface k.Task k.Match W) := none

/-- Where a strand of an activity is. -/
inductive Seat where
  | own
  | producer
  | worker (j : Nat)
  deriving DecidableEq

def Activity.strand {W : Type} (a : Activity W) : Seat → Option Strand
  | .own => a.own
  | .producer => a.search.bind fun s => s.2.producer.map (Strand.ofProducer s.1.endpoint)
  | .worker j => a.search.bind fun s =>
    (s.2.workers[j]?.bind Phase.rest?).map fun rest => (Strand.ofPool rest).discard

/-- Operations side by side in a world. -/
structure Crowd (W : Type) where
  /-- The state of the world. -/
  world : W
  activities : List (Activity W)

namespace Crowd

section

variable {W : Type}

def empty (world : W) : Crowd W := ⟨world, []⟩

/-- The strand of an activity at a seat. -/
def strand (s : Crowd W) (x : Nat × Seat) : Option Strand :=
  s.activities[x.1]?.bind fun a => a.strand x.2

/-- The call can be answered: it takes the lock only if nobody holds it. -/
def Allows (s : Crowd W) (c : Call) : Prop :=
  c = .lock → ∀ x q, s.strand x = some q → ¬ q.Holds Strand.turns

def set (s : Crowd W) (i : Nat) (a : Activity W) : Crowd W :=
  { s with activities := s.activities.set i a }

/-- The strand waits for the answer to an attempt to connect. -/
def Connecting (s : Crowd W) (x : Nat × Seat) : Prop :=
  ∃ tenant next, s.strand x = some (.call (.pool (.session tenant .connect)) next)

end

/-- One step of a crowd, with the exchange that takes place. -/
inductive Step (p : Pool) (w : World interface) :
    Crowd w.State → Option interface.Exchange → Crowd w.State → Prop where
  | started {s : Crowd w.State} (o : Operation) :
      Step p w s none { s with activities := s.activities ++ [{ own := some (o.strand p) }] }
  /-- A call of an operation is answered. -/
  | called {s : Crowd w.State} {i : Nat} {a : Activity w.State} {c : Call}
      {next : Reply c → Strand} {r : Reply c} {world : w.State} (hi : s.activities[i]? = some a)
      (hown : a.own = some (.call (.pool c) next))
      (hw : (w.only s.Allows).answers s.world c r world) :
      Step p w s (some ⟨c, r⟩) ({ s with world := world }.set i { a with own := some (next r) })
  /-- An operation begins a search. -/
  | begun {s : Crowd w.State} {i : Nat} {a : Activity w.State} {k : Quest}
      {next : Outcome k.Match → Strand} (hi : s.activities[i]? = some a)
      (hown : a.own = some (.call (.quest k) next)) (hsearch : a.search = none) :
      Step p w s none (s.set i { a with search := some ⟨k, .start (k.search p) s.world⟩ })
  | searched {s : Crowd w.State} {i : Nat} {a : Activity w.State} {k : Quest}
      {t t' : Search.State Pool.interface k.Task k.Match w.State}
      {y : Search.Event Pool.interface k.Task k.Match} (hi : s.activities[i]? = some a)
      (hsearch : a.search = some ⟨k, t⟩)
      (h : Search.Step (k.search p) (w.only s.Allows) { t with world := s.world } y t') :
      Step p w s (answered? y)
        ({ s with world := t'.world }.set i { a with search := some ⟨k, t'⟩ })
  /-- A search has ended, and the operation goes on with its outcome. -/
  | concluded {s : Crowd w.State} {i : Nat} {a : Activity w.State} {k : Quest}
      {next : Outcome k.Match → Strand}
      {t : Search.State Pool.interface k.Task k.Match w.State} (hi : s.activities[i]? = some a)
      (hown : a.own = some (.call (.quest k) next)) (hsearch : a.search = some ⟨k, t⟩)
      (hfinal : t.Final) : Step p w s none (s.set i { own := some (next t.outcome) })
  /-- An operation is abandoned, and leaves its search behind. -/
  | abandoned {s : Crowd w.State} {i : Nat} {a : Activity w.State}
      (hi : s.activities[i]? = some a) : Step p w s none (s.set i { a with own := none })
  | producerDropped {s : Crowd w.State} {i : Nat} {a : Activity w.State} {k : Quest}
      {t : Search.State Pool.interface k.Task k.Match w.State} (hi : s.activities[i]? = some a)
      (hsearch : a.search = some ⟨k, t⟩) :
      Step p w s none (s.set i { a with search := some ⟨k, { t with producer := none }⟩ })
  | workerDropped {s : Crowd w.State} {i j : Nat} {a : Activity w.State} {k : Quest}
      {t : Search.State Pool.interface k.Task k.Match w.State} (hi : s.activities[i]? = some a)
      (hsearch : a.search = some ⟨k, t⟩) :
      Step p w s none
        (s.set i { a with search := some ⟨k, { t with workers := t.workers.set j .gone }⟩ })

/-- Several steps, with the exchanges in their order. -/
inductive Steps (p : Pool) (w : World interface) :
    Crowd w.State → List interface.Exchange → Crowd w.State → Prop where
  | refl (s : Crowd w.State) : Steps p w s [] s
  | tail {s₁ s₂ s₃ : Crowd w.State} {xs : List interface.Exchange} {x : Option interface.Exchange}
      (hs : Steps p w s₁ xs s₂) (h : Step p w s₂ x s₃) : Steps p w s₁ (xs ++ x.toList) s₃

end Crowd

/-! ## Credentials -/

/-- The stored credentials of a tenant after an exchange. -/
def renewed (tenant : String) (c : Credentials) : interface.Exchange → Credentials
  | ⟨.session t (.updateCredentials d), _⟩ => if t = tenant then d else c
  | _ => c

/-- The stored credentials of a tenant after exchanges, given those at first. -/
def stored (tenant : String) (first : Credentials) (xs : List interface.Exchange) : Credentials :=
  xs.foldl (renewed tenant) first

/-- The session of a tenant keeps its credentials until others are stored. -/
def Stores (w : World interface) (tenant : String) (credentials : w.State → Credentials) : Prop :=
  ∀ s c r s', w.answers s c r s' → credentials s' = renewed tenant (credentials s) ⟨c, r⟩

end Pool

end NodeAtlas
