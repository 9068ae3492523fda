import NodeAtlas.Proofs.Machines.Lookups
import NodeAtlas.Proofs.Pool.Connect

/-!
# Moves at sites

The work on a site is made of two kinds of moves: connecting and looking the key up. Which moves there are,
in which order, and what becomes of the work is said of their outcomes alone, whatever calls each of them
takes.
-/

namespace NodeAtlas.Pool

open Protocol

/-- What the work on a site is made of. -/
inductive Move where
  /-- Connects the session of the endpoint. -/
  | connect
  /-- Looks the key up in the datacenter. -/
  | lookUp
  deriving DecidableEq, Repr

namespace Move

abbrev Reply : Move → Type
  | connect => Result Unit
  | lookUp => Result Machine

abbrev interface : Interface := ⟨Move, Reply⟩

def ask (m : Move) : Protocol interface (Reply m) := .call m .ret

/-- The calls that a move takes at a site. -/
def make (p : Pool) (lookup : Lookup) (key : String) (s : Site) :
    (m : Move) → Protocol Pool.interface (Reply m)
  | connect => p.connectEndpoint s.endpoint
  | lookUp => Pool.lookUp lookup key s

/-- The answer to a lookup. -/
def answer? : interface.Exchange → Option (Result Machine)
  | ⟨lookUp, r⟩ => some r
  | ⟨connect, _⟩ => none

/-- The error of a move that failed. -/
def failure? : interface.Exchange → Option Error
  | ⟨connect, .error err⟩ => some err
  | ⟨lookUp, .error err⟩ => some err
  | _ => none

end Move

/-- The moves at a site. -/
def moves (lookup : Lookup) (key : String) (s : Site) :
    Protocol Move.interface (Result (Option Found)) := do
  match ← Move.ask .connect with
  | .error err => return .error err
  | .ok () =>
    match ← Move.ask .lookUp with
    | .error (.invalidCredentials _) =>
      match ← Move.ask .connect with
      | .error err => return .error err
      | .ok () => return judge lookup key s (← Move.ask .lookUp)
    | r => return judge lookup key s r

variable {p : Pool} {lookup : Lookup} {key : String} {s : Site}
  {ms : List Move.interface.Exchange} {res : Result (Option Found)}

/-- Carried out by their calls, the moves are the work on the site. -/
theorem interpret_moves (p : Pool) (lookup : Lookup) (key : String) (s : Site) :
    (moves lookup key s).interpret (Move.make p lookup key s) = p.findAt lookup key s := by
  refine bind_congr (x := p.connectEndpoint s.endpoint) fun connected => ?_
  cases connected with
  | error err => rfl
  | ok u =>
    refine bind_congr (x := Pool.lookUp lookup key s) fun r => ?_
    cases r with
    | ok vm => rfl
    | error err =>
      cases err with
      | invalidCredentials d =>
        refine bind_congr (x := p.connectEndpoint s.endpoint) fun connected => ?_
        cases connected with
        | error err => rfl
        | ok u => rfl
      | _ => rfl

/-! ## Outcomes -/

/-- The answer to the last lookup. -/
def lastAnswer? (ms : List Move.interface.Exchange) : Option (Result Machine) :=
  (ms.filterMap Move.answer?).getLast?

/-- The error of the last move that failed. -/
def lastFailure? (ms : List Move.interface.Exchange) : Option Error :=
  (ms.filterMap Move.failure?).getLast?

/-- The moves are made in turn. -/
structure InTurn (ms : List Move.interface.Exchange) : Prop where
  begun : ms ≠ []
  /-- There are at most two pairs of moves, in each of which connecting comes first. -/
  order : ms.map (·.1) <+: [.connect, .lookUp, .connect, .lookUp]
  /-- When connecting succeeds, the lookup follows. -/
  proceeds : ∀ i, ms[i]? = some ⟨.connect, .ok ()⟩ → i + 1 < ms.length
  /-- When connecting fails, nothing follows. -/
  stops : ∀ i err, ms[i]? = some ⟨.connect, .error err⟩ → i + 1 = ms.length
  /-- There is a second pair exactly if the session was refused in the first lookup. -/
  again : 2 < ms.length ↔ ∃ d, ms[1]? = some ⟨.lookUp, .error (.invalidCredentials d)⟩

/-- What becomes of the work is told by its last lookup and its last failure. -/
structure Concludes (lookup : Lookup) (key : String) (s : Site)
    (ms : List Move.interface.Exchange) (res : Result (Option Found)) : Prop where
  miss : res = .ok none ↔ ∃ k, lastAnswer? ms = some (.error (.vmNotFound k))
  hit : ∀ f, res = .ok (some f) ↔
    ∃ vm, lastAnswer? ms = some (.ok vm) ∧ f = foundAt lookup key s vm
  failed : ∀ err, res = .error err → lastFailure? ms = some err

theorem Concludes.unique {res' : Result (Option Found)} (h : Concludes lookup key s ms res)
    (h' : Concludes lookup key s ms res') : res = res' := by
  cases res with
  | ok found =>
    cases found with
    | none => exact (h'.miss.mpr (h.miss.mp rfl)).symm
    | some f => exact ((h'.hit f).mpr ((h.hit f).mp rfl)).symm
  | error err =>
    cases res' with
    | ok found =>
      cases found with
      | none => exact h.miss.mpr (h'.miss.mp rfl)
      | some f => exact (h.hit f).mpr ((h'.hit f).mp rfl)
    | error err' =>
      have heq := (h.failed err rfl).symm.trans (h'.failed err' rfl)
      rw [Option.some.inj heq]

theorem judge_eq_miss_iff {r : Result Machine} :
    judge lookup key s r = .ok none ↔ ∃ k, r = .error (.vmNotFound k) := by
  constructor
  · intro h
    unfold judge at h
    split at h
    · cases h
    · exact ⟨_, rfl⟩
    · cases h
  · rintro ⟨k, rfl⟩
    rfl

/-- A lookup that counts is judged. -/
theorem concludes_judge {r : Result Machine} (hanswer : lastAnswer? ms = some r)
    (hfailure : ∀ err, r = .error err → lastFailure? ms = some err) :
    Concludes lookup key s ms (judge lookup key s r) where
  miss := by
    rw [hanswer, judge_eq_miss_iff]
    simp only [Option.some.injEq]
  hit f := by
    rw [hanswer]
    constructor
    · intro h
      obtain ⟨vm, rfl, hf⟩ := judge_eq_found h
      exact ⟨vm, rfl, hf⟩
    · rintro ⟨vm, hvm, rfl⟩
      obtain rfl := Option.some.inj hvm
      rfl
  failed err h := hfailure err (judge_eq_error h).1

/-- A failed connection counts if no lookup came before it but one that was refused. -/
theorem concludes_error {err : Error} (hfailure : lastFailure? ms = some err)
    (hanswer : ∀ r, lastAnswer? ms = some r → ∃ d, r = .error (.invalidCredentials d)) :
    Concludes lookup key s ms (.error err) where
  miss := by
    constructor
    · intro h
      cases h
    · rintro ⟨k, hk⟩
      obtain ⟨d, hd⟩ := hanswer _ hk
      cases hd
  hit f := by
    constructor
    · intro h
      cases h
    · rintro ⟨vm, hvm, -⟩
      obtain ⟨d, hd⟩ := hanswer _ hvm
      cases hd
  failed err' h := by
    cases h
    exact hfailure

/-! ## All ways to move -/

/-- The moves at a site as they are made, with what becomes of the work. -/
structure Moved (lookup : Lookup) (key : String) (s : Site) (ms : List Move.interface.Exchange)
    (res : Result (Option Found)) : Prop extends InTurn ms, Concludes lookup key s ms res where
  /-- A failed connection fails the work. -/
  fails : ∀ err, (⟨.connect, .error err⟩ : Move.interface.Exchange) ∈ ms → res = .error err

/-- The four ways to move. -/
inductive Way (lookup : Lookup) (key : String) (s : Site) :
    List Move.interface.Exchange → Result (Option Found) → Prop where
  | unreachable (err : Error) : Way lookup key s [⟨.connect, .error err⟩] (.error err)
  | answered (r : Result Machine) (hr : ∀ d, r ≠ .error (.invalidCredentials d)) :
      Way lookup key s [⟨.connect, .ok ()⟩, ⟨.lookUp, r⟩] (judge lookup key s r)
  | refused (d : String) (err : Error) :
      Way lookup key s [⟨.connect, .ok ()⟩, ⟨.lookUp, .error (.invalidCredentials d)⟩,
        ⟨.connect, .error err⟩] (.error err)
  | renewed (d : String) (r : Result Machine) :
      Way lookup key s [⟨.connect, .ok ()⟩, ⟨.lookUp, .error (.invalidCredentials d)⟩,
        ⟨.connect, .ok ()⟩, ⟨.lookUp, r⟩] (judge lookup key s r)

theorem Move.yields_ask_iff {m : Move} {r : Move.Reply m} :
    (Move.ask m).Yields ms r ↔ ms = [⟨m, r⟩] := by
  unfold Move.ask
  rw [yields_call_iff]
  constructor
  · rintro ⟨r', xs, h, rfl⟩
    obtain ⟨rfl, rfl⟩ := yields_ret_iff.mp h
    rfl
  · rintro rfl
    exact ⟨r, [], .ret r, rfl⟩

theorem way_of_yields (h : (moves lookup key s).Yields ms res) : Way lookup key s ms res := by
  obtain ⟨_, first, ys, hfirst, h₁, rfl⟩ := yields_bind_iff.mp h
  obtain rfl := Move.yields_ask_iff.mp hfirst
  cases first with
  | error err =>
    obtain ⟨rfl, rfl⟩ := yields_pure_iff.mp h₁
    exact .unreachable err
  | ok u =>
    obtain ⟨_, r, zs, hlookup, h₂, rfl⟩ := yields_bind_iff.mp h₁
    obtain rfl := Move.yields_ask_iff.mp hlookup
    split at h₂
    · rename_i d
      obtain ⟨_, second, zs, hsecond, h₃, rfl⟩ := yields_bind_iff.mp h₂
      obtain rfl := Move.yields_ask_iff.mp hsecond
      cases second with
      | error err =>
        obtain ⟨rfl, rfl⟩ := yields_pure_iff.mp h₃
        exact .refused d err
      | ok u =>
        obtain ⟨_, r', zs, hlookup', h₄, rfl⟩ := yields_bind_iff.mp h₃
        obtain rfl := Move.yields_ask_iff.mp hlookup'
        obtain ⟨rfl, rfl⟩ := yields_pure_iff.mp h₄
        exact .renewed d r'
    · rename_i hr
      obtain ⟨rfl, rfl⟩ := yields_pure_iff.mp h₂
      exact .answered r hr

theorem Way.yields (h : Way lookup key s ms res) : (moves lookup key s).Yields ms res := by
  cases h with
  | unreachable err => exact .call _ (.ret _)
  | answered r hr =>
    refine .call _ (.call _ ?_)
    cases r with
    | ok vm => exact .ret _
    | error err =>
      cases err with
      | invalidCredentials d => exact absurd rfl (hr d)
      | _ => exact .ret _
  | refused d err => exact .call _ (.call _ (.call _ (.ret _)))
  | renewed d r => exact .call _ (.call _ (.call _ (.call _ (.ret _))))

theorem Way.inTurn (h : Way lookup key s ms res) : InTurn ms := by
  cases h with
  | unreachable err =>
    refine ⟨List.cons_ne_nil _ _, ⟨[.lookUp, .connect, .lookUp], rfl⟩, ?_, ?_, ?_⟩
    · rintro (_ | i) <;> simp
    · rintro (_ | i) <;> simp
    · simp
  | answered r hr =>
    refine ⟨List.cons_ne_nil _ _, ⟨[.connect, .lookUp], rfl⟩, ?_, ?_, ?_⟩
    · rintro (_ | _ | i) <;> simp
    · rintro (_ | _ | i) <;> simp
    · simp [hr]
  | refused d err =>
    refine ⟨List.cons_ne_nil _ _, ⟨[.lookUp], rfl⟩, ?_, ?_, ?_⟩
    · rintro (_ | _ | _ | i) <;> simp
    · rintro (_ | _ | _ | i) <;> simp
    · simp
  | renewed d r =>
    refine ⟨List.cons_ne_nil _ _, ⟨[], rfl⟩, ?_, ?_, ?_⟩
    · rintro (_ | _ | _ | _ | i) <;> simp
    · rintro (_ | _ | _ | _ | i) <;> simp
    · simp

theorem Way.moved (h : Way lookup key s ms res) : Moved lookup key s ms res := by
  refine ⟨h.inTurn, ?_, fun err herr => ?_⟩
  · cases h with
    | unreachable err => exact concludes_error rfl nofun
    | answered r hr => exact concludes_judge rfl (by rintro err rfl; rfl)
    | refused d err => exact concludes_error rfl fun r hr => ⟨d, (Option.some.inj hr).symm⟩
    | renewed d r => exact concludes_judge rfl (by rintro err rfl; rfl)
  · cases h with
    | unreachable err' => simp_all
    | answered r hr => simp at herr
    | refused d err' => simp_all
    | renewed d r => simp at herr

/-- Moves that are made in turn are made in one of the ways. -/
theorem exists_way_of_inTurn (lookup : Lookup) (key : String) (s : Site) (h : InTurn ms) :
    ∃ res, Way lookup key s ms res := by
  obtain ⟨hbegun, horder, hproceeds, hstops, hagain⟩ := h
  obtain _ | ⟨⟨m, connected⟩, ms⟩ := ms
  · exact absurd rfl hbegun
  obtain ⟨hfirst, hafter⟩ := List.cons_prefix_cons.mp horder
  obtain rfl : m = .connect := hfirst
  cases connected with
  | error err =>
    obtain rfl : ms = [] := by simpa using hstops 0 err rfl
    exact ⟨_, .unreachable err⟩
  | ok u =>
    obtain _ | ⟨⟨m, r⟩, ms⟩ := ms
    · exact absurd (hproceeds 0 rfl) (by simp)
    obtain ⟨hsecond, hpair⟩ := List.cons_prefix_cons.mp hafter
    obtain rfl : m = .lookUp := hsecond
    by_cases hr : ∃ d, r = .error (.invalidCredentials d)
    · obtain ⟨d, rfl⟩ := hr
      obtain _ | ⟨⟨m, connected⟩, ms⟩ := ms
      · exact absurd (hagain.mpr ⟨d, rfl⟩) (by simp)
      obtain ⟨hthird, hlast⟩ := List.cons_prefix_cons.mp hpair
      obtain rfl : m = .connect := hthird
      cases connected with
      | error err =>
        obtain rfl : ms = [] := by simpa using hstops 2 err rfl
        exact ⟨_, .refused d err⟩
      | ok u =>
        obtain _ | ⟨⟨m, r⟩, ms⟩ := ms
        · exact absurd (hproceeds 2 rfl) (by simp)
        obtain ⟨hfourth, hend⟩ := List.cons_prefix_cons.mp hlast
        obtain rfl : m = .lookUp := hfourth
        obtain rfl : ms = [] := by simpa using hend
        exact ⟨_, .renewed d r⟩
    · have hshort : ¬ 2 < (⟨.connect, .ok u⟩ :: ⟨.lookUp, r⟩ :: ms : List Move.interface.Exchange).length :=
        fun hlong => hr (by simpa using hagain.mp hlong)
      obtain rfl : ms = [] := by simpa using hshort
      exact ⟨_, .answered r fun d hd => hr ⟨d, hd⟩⟩

theorem moved_iff_yields_moves : (moves lookup key s).Yields ms res ↔ Moved lookup key s ms res := by
  constructor
  · exact fun h => (way_of_yields h).moved
  · intro h
    obtain ⟨res', hway⟩ := exists_way_of_inTurn lookup key s h.toInTurn
    rw [h.toConcludes.unique hway.moved.toConcludes]
    exact hway.yields

/-! ## Calls -/

/-- Connecting takes its turn once and looks nothing up, and a lookup is one call. -/
theorem counts_make {m : Move} {r : Move.Reply m} {xs : List interface.Exchange}
    (h : (Move.make p lookup key s m).Yields xs r) :
    xs.countP (·.1.isLookup) = [m].count .lookUp ∧ xs.countP (·.1 = .lock) = [m].count .connect := by
  cases m with
  | connect =>
    cases attempt_of_yields h with
    | settled r hr => exact ⟨rfl, rfl⟩
    | refreshed d h =>
      cases h with
      | unmanaged => exact ⟨rfl, rfl⟩
      | refused => exact ⟨rfl, rfl⟩
      | replaced => exact ⟨rfl, rfl⟩
  | lookUp =>
    obtain rfl := yields_lookUp_iff.mp h
    exact ⟨rfl, rfl⟩

theorem counts_parts {parts : List (Move.interface.Exchange × List interface.Exchange)}
    (h : ∀ x ∈ parts, (Move.make p lookup key s x.1.1).Yields x.2 x.1.2) :
    (parts.flatMap (·.2)).countP (·.1.isLookup) = ((parts.map (·.1)).map (·.1)).count .lookUp ∧
      (parts.flatMap (·.2)).countP (·.1 = .lock) = ((parts.map (·.1)).map (·.1)).count .connect := by
  induction parts with
  | nil => exact ⟨rfl, rfl⟩
  | cons x parts ih =>
    obtain ⟨hx, hparts⟩ := List.forall_mem_cons.mp h
    obtain ⟨hlookups, hlocks⟩ := ih hparts
    obtain ⟨hlookup, hlock⟩ := counts_make hx
    rw [List.flatMap_cons, List.countP_append, List.countP_append, hlookups, hlocks, hlookup, hlock,
      List.map_cons, List.map_cons, ← List.count_append, ← List.count_append]
    exact ⟨rfl, rfl⟩

/-! ## Sessions that expire -/

/-- The session was refused. -/
def isRefused : Result Machine → Bool
  | .error err => err.isInvalidCredentials
  | .ok _ => false

theorem isRefused_iff {r : Result Machine} :
    isRefused r = true ↔ ∃ d, r = .error (.invalidCredentials d) := by
  constructor
  · intro h
    cases r with
    | ok vm => cases h
    | error err =>
      cases err with
      | invalidCredentials d => exact ⟨d, rfl⟩
      | _ => cases h
  · rintro ⟨d, rfl⟩
    rfl

/-- If connecting succeeds and every lookup but one that is refused answers a machine, it is a match. -/
theorem hit_of_refused_once (h : Moved lookup key s ms res) {vm : Machine}
    (hconnected : ∀ err, (⟨.connect, .error err⟩ : Move.interface.Exchange) ∉ ms)
    (hpresent : ∀ r ∈ ms.filterMap Move.answer?, isRefused r = false → r = .ok vm)
    (honce : (ms.filterMap Move.answer?).countP isRefused ≤ 1) :
    res = .ok (some (foundAt lookup key s vm)) := by
  cases way_of_yields (moved_iff_yields_moves.mpr h) with
  | unreachable err => exact absurd List.mem_cons_self (hconnected err)
  | answered r hr =>
    have hnot : isRefused r = false := by
      rw [← Bool.not_eq_true, isRefused_iff]
      rintro ⟨d, hd⟩
      exact hr d hd
    obtain rfl := hpresent r (by simp [Move.answer?]) hnot
    rfl
  | refused d err => exact absurd (by simp) (hconnected err)
  | renewed d r =>
    -- The first lookup was the one that is refused.
    have hanswers : ([⟨.connect, .ok ()⟩, ⟨.lookUp, .error (.invalidCredentials d)⟩,
        ⟨.connect, .ok ()⟩, ⟨.lookUp, r⟩] : List Move.interface.Exchange).filterMap Move.answer? =
        [.error (.invalidCredentials d), r] := rfl
    rw [hanswers] at hpresent honce
    have hnot : isRefused r = false := by
      rw [List.countP_cons_of_pos rfl, List.countP_singleton] at honce
      cases hrefused : isRefused r with
      | false => rfl
      | true =>
        rw [if_pos hrefused] at honce
        omega
    obtain rfl := hpresent r (by simp) hnot
    rfl

/-! ## The work as a whole -/

/-- The work on a site consists of connecting and looking up, in turn and each at most twice; it is done
twice exactly if the session is refused in the first lookup, and a failed connection ends it. It is a miss
exactly if the last lookup found no machine, a match exactly if it answered one, and else the last failure.
All moves of that kind are possible, whatever calls they take. A session that is refused once and renewed
hides no machine. -/
theorem moved_iff_yields_findAt (p : Pool) (lookup : Lookup) (key : String) (s : Site) :
    (∀ xs res, (p.findAt lookup key s).Yields xs res ↔
      ∃ parts : List (Move.interface.Exchange × List interface.Exchange),
        Moved lookup key s (parts.map (·.1)) res ∧
          (∀ x ∈ parts, (Move.make p lookup key s x.1.1).Yields x.2 x.1.2) ∧
          xs = parts.flatMap (·.2)) ∧
    (∀ xs res, (p.findAt lookup key s).Yields xs res →
      xs.countP (·.1.isLookup) ≤ 2 ∧ xs.countP (·.1 = .lock) ≤ 2) ∧
    ∀ ms res vm, Moved lookup key s ms res →
      (∀ err, (⟨.connect, .error err⟩ : Move.interface.Exchange) ∉ ms) →
      (∀ r ∈ ms.filterMap Move.answer?, isRefused r = false → r = .ok vm) →
      (ms.filterMap Move.answer?).countP isRefused ≤ 1 →
      res = .ok (some (foundAt lookup key s vm)) := by
  have hiff : ∀ xs res, (p.findAt lookup key s).Yields xs res ↔
      ∃ parts : List (Move.interface.Exchange × List interface.Exchange),
        Moved lookup key s (parts.map (·.1)) res ∧
          (∀ x ∈ parts, (Move.make p lookup key s x.1.1).Yields x.2 x.1.2) ∧
          xs = parts.flatMap (·.2) := by
    intro xs res
    rw [← interpret_moves, yields_interpret_iff]
    simp only [moved_iff_yields_moves]
  refine ⟨hiff, fun xs res h => ?_, fun ms res vm h => hit_of_refused_once h⟩
  obtain ⟨parts, hmoved, hparts, rfl⟩ := (hiff xs res).mp h
  obtain ⟨hlookups, hlocks⟩ := counts_parts hparts
  rw [hlookups, hlocks]
  exact ⟨hmoved.order.sublist.count_le .lookUp, hmoved.order.sublist.count_le .connect⟩

/-- A datacenter of an endpoint. -/
def plainSite : Site :=
  ⟨⟨"a", "10.0.0.1", 443, .none, globalSecretRef, false, [], [.ipv4]⟩, ⟨"dc1", "DC1", ""⟩⟩

/-- The session expires before the first lookup. -/
def expired (vm : Machine) : List (Move.interface.Exchange × List interface.Exchange) :=
  let connecting : List interface.Exchange :=
    [⟨.lock, ()⟩, ⟨.session "a" .connect, .ok ()⟩, ⟨.unlock, ()⟩]
  let refusal : Result Machine := .error (.invalidCredentials "session expired")
  [(⟨.connect, .ok ()⟩, connecting),
    (⟨.lookUp, refusal⟩, [lookedUp .uuid "4210a1b2" plainSite refusal]),
    (⟨.connect, .ok ()⟩, connecting),
    (⟨.lookUp, .ok vm⟩, [lookedUp .uuid "4210a1b2" plainSite (.ok vm)])]

/-- The machine is found all the same. -/
theorem moved_iff_yields_findAt_expired :
    ∃ vm res, ((⟨∅, [], {}⟩ : Pool).findAt .uuid "4210a1b2" plainSite).Yields
        ((expired vm).flatMap (·.2)) res ∧
      ((expired vm).flatMap (·.2)).countP (·.1.isLookup) ≤ 2 ∧
      res = .ok (some (foundAt .uuid "4210a1b2" plainSite vm)) := by
  let vm : Machine := ⟨"4210A1B2", "worker-1", [], 4, 8192, "", none⟩
  obtain ⟨hiff, hcounts, hhit⟩ :=
    moved_iff_yields_findAt ⟨∅, [], {}⟩ .uuid "4210a1b2" plainSite
  have hmoved : Moved .uuid "4210a1b2" plainSite ((expired vm).map (·.1))
      (judge .uuid "4210a1b2" plainSite (.ok vm)) :=
    (Way.renewed "session expired" (.ok vm)).moved
  have hconnecting : ((⟨∅, [], {}⟩ : Pool).connectEndpoint plainSite.endpoint).Yields
      [⟨.lock, ()⟩, ⟨.session "a" .connect, .ok ()⟩, ⟨.unlock, ()⟩] (.ok ()) :=
    .call _ (.call _ (.call _ (.ret _)))
  have hparts : ∀ x ∈ expired vm,
      (Move.make ⟨∅, [], {}⟩ .uuid "4210a1b2" plainSite x.1.1).Yields x.2 x.1.2 := by
    simp only [expired, List.forall_mem_cons, List.not_mem_nil, false_imp_iff, implies_true, and_true]
    exact ⟨hconnecting, yields_lookUp_iff.mpr rfl, hconnecting, yields_lookUp_iff.mpr rfl⟩
  have hrun := (hiff _ _).mpr ⟨expired vm, hmoved, hparts, rfl⟩
  refine ⟨vm, _, hrun, (hcounts _ _ hrun).1, hhit _ _ vm hmoved ?_ ?_ ?_⟩
  · simp [expired]
  · have hanswers : ((expired vm).map (·.1)).filterMap Move.answer? =
        [.error (.invalidCredentials "session expired"), .ok vm] := rfl
    rw [hanswers]
    exact List.forall_mem_cons.mpr ⟨nofun, List.forall_mem_singleton.mpr fun _ => rfl⟩
  · decide

end NodeAtlas.Pool
