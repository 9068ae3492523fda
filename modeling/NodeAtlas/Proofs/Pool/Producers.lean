import NodeAtlas.Protocol.Paths
import NodeAtlas.Search.Machines
import NodeAtlas.Search.Trace

/-!
# The parts of producers

The exchanges of the protocols that producers are put together from: single calls, protocols of the
pool, records of failures and tasks for the queue.
-/

namespace NodeAtlas

open Protocol

namespace Search

variable {I : Interface} {T α : Type}

@[simp] theorem yields_ask_iff {c : Call I T} {r : Reply I T c} {ys : List (interface I T).Exchange} :
    (ask c).Yields ys r ↔ ys = [⟨c, r⟩] := by
  unfold ask
  simp only [yields_call_iff, yields_ret_iff]
  constructor
  · rintro ⟨r', fs, ⟨rfl, rfl⟩, rfl⟩
    rfl
  · rintro rfl
    exact ⟨r, [], ⟨rfl, rfl⟩, rfl⟩

@[simp] theorem asks_ask_iff {c d : Call I T} {ys : List (interface I T).Exchange} :
    (ask c).Asks ys d ↔ ys = [] ∧ d = c := by
  constructor
  · intro h
    cases h with
    | here => exact ⟨rfl, rfl⟩
    | later r h => exact (not_asks_ret _ _ _ h).elim
  · rintro ⟨rfl, rfl⟩
    exact .here _ _

theorem yields_lift_iff {q : Protocol I α} {ys : List (interface I T).Exchange} {a : α} :
    (lift q : Protocol (interface I T) α).Yields ys a ↔
      ∃ xs, q.Yields xs a ∧ ys = xs.map outward := by
  constructor
  · intro h
    induction q generalizing ys with
    | ret b =>
      obtain ⟨rfl, rfl⟩ := yields_ret_iff.mp h
      exact ⟨[], .ret a, rfl⟩
    | call c next ih =>
      obtain ⟨r, fs, hr, rfl⟩ := yields_call_iff.mp h
      obtain ⟨xs, hxs, rfl⟩ := ih r hr
      exact ⟨⟨c, r⟩ :: xs, yields_call_iff.mpr ⟨r, xs, hxs, rfl⟩, rfl⟩
  · rintro ⟨xs, h, rfl⟩
    induction h with
    | ret a => exact .ret a
    | call r _ ih => exact yields_call_iff.mpr ⟨r, _, ih, rfl⟩

/-- A protocol of the interface makes no call on the search. -/
theorem outer_of_asks_lift {q : Protocol I α} {ys : List (interface I T).Exchange} {d : Call I T}
    (h : (lift q : Protocol (interface I T) α).Asks ys d) : ∃ c, d = .outer c := by
  induction q generalizing ys with
  | ret b => exact (not_asks_ret _ _ _ h).elim
  | call c next ih =>
    cases h with
    | here => exact ⟨c, rfl⟩
    | later r h => exact ih r h

end Search

namespace Pool

variable {T : Type}

@[simp] theorem yields_ask_iff {c : Call} {r : Reply c} {xs : List interface.Exchange} :
    (ask c).Yields xs r ↔ xs = [⟨c, r⟩] := by
  unfold ask
  simp only [yields_call_iff, yields_ret_iff]
  constructor
  · rintro ⟨r', fs, ⟨rfl, rfl⟩, rfl⟩
    rfl
  · rintro rfl
    exact ⟨r, [], ⟨rfl, rfl⟩, rfl⟩

theorem eq_of_yields_recordAll {es : List Error}
    {ys : List (Search.interface interface T).Exchange} {u : Unit} (h : (recordAll es).Yields ys u) :
    ys = es.map fun e => ⟨.record e, ()⟩ := by
  induction es generalizing ys with
  | nil => exact (yields_pure_iff.mp h).1
  | cons e es ih =>
    rw [recordAll] at h
    obtain ⟨fs, v, gs, hask, hrest, rfl⟩ := yields_bind_iff.mp h
    rw [Search.yields_ask_iff.mp hask, ih hrest]
    rfl

theorem mem_of_asks_recordAll {es : List Error} {d : Search.Call interface T}
    {ys : List (Search.interface interface T).Exchange} (h : (recordAll es).Asks ys d) :
    ∃ e ∈ es, d = .record e := by
  induction es generalizing ys with
  | nil => exact (not_asks_ret _ _ _ h).elim
  | cons e es ih =>
    rw [recordAll] at h
    rcases asks_bind_iff.mp h with h | ⟨fs, a, gs, -, h, -⟩
    · exact ⟨e, List.mem_cons_self, (Search.asks_ask_iff.mp h).2⟩
    · obtain ⟨e', he', hd⟩ := ih h
      exact ⟨e', List.mem_cons_of_mem _ he', hd⟩

/-- As long as tasks are wanted, all of them are put on the queue. -/
theorem pushAll_of_unhurried {ts : List T} {ys : List (Search.interface interface T).Exchange}
    {more : Bool} (h : (pushAll ts).Yields ys more) (hu : ∀ y ∈ ys, Search.Unhurried y) :
    more = true ∧ ys = ts.map fun t => ⟨.push t, true⟩ := by
  induction ts generalizing ys with
  | nil =>
    obtain ⟨rfl, rfl⟩ := yields_pure_iff.mp h
    exact ⟨rfl, rfl⟩
  | cons t ts ih =>
    rw [pushAll] at h
    obtain ⟨fs, wanted, gs, hask, hrest, rfl⟩ := yields_bind_iff.mp h
    rw [Search.yields_ask_iff] at hask
    subst hask
    obtain rfl : wanted = true := hu ⟨.push t, wanted⟩ (by simp)
    obtain ⟨hmore, hgs⟩ := ih hrest fun y hy => hu y (List.mem_append_right _ hy)
    exact ⟨hmore, by rw [hgs]; rfl⟩

theorem mem_of_asks_pushAll {ts : List T} {d : Search.Call interface T}
    {ys : List (Search.interface interface T).Exchange} (h : (pushAll ts).Asks ys d) :
    ∃ t ∈ ts, d = .push t := by
  induction ts generalizing ys with
  | nil => exact (not_asks_ret _ _ _ h).elim
  | cons t ts ih =>
    rw [pushAll] at h
    rcases asks_bind_iff.mp h with h | ⟨fs, wanted, gs, -, h, -⟩
    · exact ⟨t, List.mem_cons_self, (Search.asks_ask_iff.mp h).2⟩
    · cases wanted with
      | false => exact (not_asks_ret _ _ _ h).elim
      | true =>
        obtain ⟨t', ht', hd⟩ := ih h
        exact ⟨t', List.mem_cons_of_mem _ ht', hd⟩

end Pool

end NodeAtlas
