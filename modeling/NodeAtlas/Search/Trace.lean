import NodeAtlas.Protocol.Paths
import NodeAtlas.Search.Step

/-!
# Traces of searches

What the events of a search tell about its parts: the exchanges of the producer, the tasks on their
way from the queue to the end of their work, the matches and the failures, each in their order.
-/

namespace NodeAtlas.Search

variable {I : Interface} {T R W : Type}

/-! ## States -/

/-- The task that a worker has in hand. -/
def Phase.task? : Phase I T R → Option T
  | .busy t _ => some t
  | _ => none

/-- The tasks that are being worked on. -/
def State.inHand (s : State I T R W) : List T := s.workers.filterMap Phase.task?

/-! ## Events -/

/-- An exchange of the interface as one of a producer. -/
def outward (x : I.Exchange) : (interface I T).Exchange := ⟨.outer x.1, x.2⟩

namespace Event

/-- The exchange of the producer in an event. -/
def exchange? : Event I T R → Option (interface I T).Exchange
  | .asked x => some (outward x)
  | .pushed t => some ⟨.push t, true⟩
  | .refused t => some ⟨.push t, false⟩
  | .recorded e => some ⟨.record e, ()⟩
  | .polled ended => some ⟨.isOver, ended⟩
  | _ => none

/-- The task that is put on the queue. -/
def pushed? : Event I T R → Option T
  | .pushed t => some t
  | _ => none

/-- The task that is taken from the queue. -/
def taken? : Event I T R → Option T
  | .taken t => some t
  | _ => none

/-- The task whose work ends. -/
def finished? : Event I T R → Option T
  | .matched t _ | .missed t | .failed t _ => some t
  | _ => none

/-- The match that is found, with its task. -/
def match? : Event I T R → Option (T × R)
  | .matched t r => some (t, r)
  | _ => none

/-- The failure that is recorded, by the producer or by a worker. -/
def failure? : Event I T R → Option Error
  | .recorded e | .failed _ e => some e
  | _ => none

/-- The end of the work on a task. -/
def ofResult (t : T) : Result (Option R) → Event I T R
  | .ok (some r) => .matched t r
  | .ok none => .missed t
  | .error e => .failed t e

end Event

/-- What the world did in a step. -/
def answered? : Event I T R → Option I.Exchange
  | .asked y | .worked _ y => some y
  | _ => none

/-! ## Traces -/

/-- The exchanges of the producer. -/
abbrev exchanges (es : List (Event I T R)) : List (interface I T).Exchange :=
  es.filterMap Event.exchange?

/-- The tasks put on the queue. -/
abbrev pushes (es : List (Event I T R)) : List T := es.filterMap Event.pushed?

/-- The tasks taken from the queue. -/
abbrev takes (es : List (Event I T R)) : List T := es.filterMap Event.taken?

/-- The tasks whose work has ended. -/
abbrev finishes (es : List (Event I T R)) : List T := es.filterMap Event.finished?

/-- The matches with their tasks. -/
abbrev matchesIn (es : List (Event I T R)) : List (T × R) := es.filterMap Event.match?

abbrev failuresIn (es : List (Event I T R)) : List Error := es.filterMap Event.failure?

/-- The events hold all of the work on a task, from taking it to this result. -/
def Performed (work : T → Work I R) (es : List (Event I T R)) (t : T) (res : Result (Option R)) :
    Prop :=
  ∃ xs, (work t).Yields xs res ∧
    (Event.taken t :: xs.map (Event.worked t) ++ [Event.ofResult t res]).Sublist es

/-- The producer was not told that the search is over. -/
def Unhurried : (interface I T).Exchange → Prop
  | ⟨.push _, wanted⟩ => wanted = true
  | ⟨.isOver, ended⟩ => ended = false
  | _ => True

/-- Nothing was left out: the producer ran to its end, and every task it put on the queue was worked
on once and did not match. -/
structure Exhausts (produce : Producer I T) (work : T → Work I R) (es : List (Event I T R)) :
    Prop where
  /-- The producer ended by itself. -/
  produced : .produced ∈ es
  /-- It made all of its calls. -/
  complete : produce.Yields (exchanges es) ()
  /-- It was never told to stop. -/
  unhurried : ∀ y ∈ exchanges es, Unhurried y
  /-- Every task was handed to a worker once, in the order of the queue. -/
  taken : takes es = pushes es
  /-- The work on every task has ended. -/
  finished : (finishes es).Perm (pushes es)
  /-- The work on every task was a miss or failed. -/
  missed : ∀ t ∈ pushes es, ∃ res, (∀ r, res ≠ .ok (some r)) ∧ Performed work es t res
  /-- There is no match. -/
  unmatched : matchesIn es = []

/-- The outcome that matches and failures amount to: the first match, or else the last failure. -/
def verdict (es : List (Event I T R)) : Outcome R :=
  match (matchesIn es).head?, (failuresIn es).getLast? with
  | some m, _ => .found m.2
  | none, some e => .failed e
  | none, none => .exhausted

/-! ## Exchanges and events -/

variable {es : List (Event I T R)}

/-- The task that an exchange puts on the queue. -/
def wanted? : (interface I T).Exchange → Option T
  | ⟨.push t, true⟩ => some t
  | _ => none

theorem pushes_eq : pushes es = (exchanges es).filterMap wanted? := by
  rw [exchanges, List.filterMap_filterMap]
  refine congrArg (fun f => es.filterMap f) (funext fun e => ?_)
  cases e <;> rfl

theorem push_mem_exchanges {t : T} (h : t ∈ pushes es) :
    (⟨.push t, true⟩ : (interface I T).Exchange) ∈ exchanges es := by
  obtain ⟨e, he, ht⟩ := List.mem_filterMap.mp h
  refine List.mem_filterMap.mpr ⟨e, he, ?_⟩
  cases e with
  | pushed t' => cases ht; rfl
  | _ => cases ht

theorem recorded_mem_iff {err : Error} :
    .recorded err ∈ es ↔ (⟨.record err, ()⟩ : (interface I T).Exchange) ∈ exchanges es := by
  constructor
  · intro h
    exact List.mem_filterMap.mpr ⟨_, h, rfl⟩
  · intro h
    obtain ⟨e, he, herr⟩ := List.mem_filterMap.mp h
    cases e with
    | recorded err' => cases herr; exact he
    | _ => cases herr

theorem asked_mem {y : I.Exchange} (h : outward y ∈ exchanges es) : .asked y ∈ es := by
  obtain ⟨e, he, hy⟩ := List.mem_filterMap.mp h
  obtain ⟨c, r⟩ := y
  cases e with
  | asked y' =>
    obtain ⟨c', r'⟩ := y'
    cases hy
    exact he
  | _ => cases hy

/-- The failure that an exchange records. -/
def recorded? : (interface I T).Exchange → Option Error
  | ⟨.record e, _⟩ => some e
  | _ => none

/-- Where no work fails, the failures are those that the producer records. -/
theorem failuresIn_eq (h : ∀ t err, .failed t err ∉ es) :
    failuresIn es = (exchanges es).filterMap recorded? := by
  induction es with
  | nil => rfl
  | cons e es ih =>
    have hrest := ih fun t err hmem => h t err (List.mem_cons_of_mem _ hmem)
    cases e with
    | failed t err => exact (h t err List.mem_cons_self).elim
    | recorded err => exact congrArg (err :: ·) hrest
    | _ => exact hrest

section Parts

variable (xs : List I.Exchange) (errs : List Error) (ts : List T)

@[simp] theorem filterMap_wanted_outward :
    (xs.map outward).filterMap (wanted? (T := T)) = [] := by
  rw [List.filterMap_map, List.filterMap_eq_nil_iff]
  exact fun _ _ => rfl

@[simp] theorem filterMap_wanted_record :
    (errs.map fun e => (⟨.record e, ()⟩ : (interface I T).Exchange)).filterMap wanted? = [] := by
  rw [List.filterMap_map, List.filterMap_eq_nil_iff]
  exact fun _ _ => rfl

@[simp] theorem filterMap_wanted_push :
    (ts.map fun t => (⟨.push t, true⟩ : (interface I T).Exchange)).filterMap wanted? = ts := by
  rw [List.filterMap_map]
  exact List.filterMap_some

@[simp] theorem filterMap_recorded_outward :
    (xs.map outward).filterMap (recorded? (T := T)) = [] := by
  rw [List.filterMap_map, List.filterMap_eq_nil_iff]
  exact fun _ _ => rfl

@[simp] theorem filterMap_recorded_record :
    (errs.map fun e => (⟨.record e, ()⟩ : (interface I T).Exchange)).filterMap recorded? = errs := by
  rw [List.filterMap_map]
  exact List.filterMap_some

@[simp] theorem filterMap_recorded_push :
    (ts.map fun t => (⟨.push t, true⟩ : (interface I T).Exchange)).filterMap recorded? = [] := by
  rw [List.filterMap_map, List.filterMap_eq_nil_iff]
  exact fun _ _ => rfl

end Parts

/-- All of the work on a task is in the trace. -/
theorem Performed.worked_mem {work : T → Work I R} {t : T} {res : Result (Option R)}
    (h : Performed work es t res) :
    ∃ xs, (work t).Yields xs res ∧ (∀ y ∈ xs, .worked t y ∈ es) ∧ .ofResult t res ∈ es := by
  obtain ⟨xs, hxs, hsub⟩ := h
  exact ⟨xs, hxs, fun y hy => hsub.subset (by simp [hy]), hsub.subset (by simp)⟩

end NodeAtlas.Search
