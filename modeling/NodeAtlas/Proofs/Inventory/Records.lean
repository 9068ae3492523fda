import Mathlib.Data.List.Nodup
import NodeAtlas.Inventory.Record
import NodeAtlas.Proofs.Json.RoundTrip

/-!
# Inventory records are read back

A record is written as the fields that it has, and the positions of these are found again by their
names. What is left out when it has nothing to say is what its default restores.
-/

namespace NodeAtlas

open Json

namespace Json

/-! ## Fields -/

/-- The name of a field and its value, if it is written. -/
abbrev Entry := String × Option Json

/-- The members of the fields that are written. -/
def members (es : List Entry) : List (String × Json) := es.filterMap fun e => e.2.map (e.1, ·)

/-- The names of the fields, one for each. -/
def namesOf (es : List Entry) : List FieldNames := es.map fun e => [e.1]

theorem fieldIndex?_namesOf {es₁ : List Entry} {e : Entry} (es₂ : List Entry)
    (h : e.1 ∉ es₁.map (·.1)) :
    fieldIndex? (namesOf (es₁ ++ e :: es₂)) e.1 = some es₁.length := by
  have hbefore : (namesOf es₁).findIdx? (fun names => names.contains e.1) = none := by
    rw [List.findIdx?_eq_none_iff]
    intro names hnames
    obtain ⟨x, hx, rfl⟩ := List.mem_map.mp hnames
    have hne : e.1 ≠ x.1 := fun heq => h (heq ▸ List.mem_map_of_mem hx)
    simpa using hne
  rw [fieldIndex?, namesOf, List.map_append, List.findIdx?_append, ← namesOf, hbefore, List.map_cons,
    List.findIdx?_cons]
  simp [namesOf]

/-- The fields before some point are in their positions. The members of the others fill the rest. -/
theorem assign_members (es₁ es₂ : List Entry) (h : ((es₁ ++ es₂).map (·.1)).Nodup) :
    assign (namesOf (es₁ ++ es₂)) (es₁.map (·.2) ++ es₂.map fun _ => none)
      (namedMembers (members es₂)) = some ((es₁ ++ es₂).map (·.2)) := by
  induction es₂ generalizing es₁ with
  | nil => simp [members, namedMembers, assign]
  | cons e es₂ ih =>
    have hrest := ih (es₁ ++ [e]) (by rwa [List.append_assoc])
    simp only [List.append_assoc, List.singleton_append] at hrest
    obtain ⟨name, _ | v⟩ := e
    · rw [← hrest]
      simp [members]
    · -- The name leads to the first position that is free, as no field before it has the name.
      have hname : name ∉ es₁.map (·.1) := by
        rw [List.map_append, List.map_cons, List.nodup_append] at h
        exact fun hmem => h.2.2 name hmem name List.mem_cons_self rfl
      have hindex := fieldIndex?_namesOf (e := (name, some v)) es₂ hname
      rw [← hrest]
      simp [members, namedMembers, assign, hindex]

/-- The values of the fields are found again if no two fields have one name. -/
theorem slots?_record (fields : List FieldNames) (es : List Entry)
    (hfields : namesOf es = fields) (h : fields.Nodup) :
    slots? fields (record (members es)) = some (es.map (·.2)) := by
  have hnames : (es.map (·.1)).Nodup := by
    rw [← hfields, namesOf] at h
    exact List.Nodup.of_map (fun name => [name]) (by rwa [List.map_map])
  have hassign := assign_members [] es hnames
  rw [List.nil_append, List.map_nil, List.nil_append] at hassign
  rw [record, slots?, ← hassign, ← hfields, namesOf, List.map_map]
  rfl

theorem readAll_map {α : Type} {read : Json → Option α} {write : α → Json}
    (h : ∀ a, read (write a) = some a) (as : List α) : readAll read (as.map write) = some as := by
  induction as with
  | nil => rfl
  | cons a as ih => simp only [List.map_cons, readAll, h, ih]

theorem asUInt32_toNat (n : UInt32) : asUInt32 (natural n.toNat) = some n := by
  simp [asUInt32, n.toNat_lt_size]

theorem asUInt64_toNat (n : UInt64) : asUInt64 (natural n.toNat) = some n := by
  simp [asUInt64, n.toNat_lt_size]

theorem plain_members {es : List Entry} (h : ∀ e ∈ es, ∀ v, e.2 = some v → Plain v) :
    Plain (record (members es)) := by
  refine .record fun m hm => ?_
  obtain ⟨e, he, hm⟩ := List.mem_filterMap.mp hm
  obtain ⟨v, hv, rfl⟩ := Option.map_eq_some_iff.mp hm
  exact h e he v hv

end Json

/-! ## Records -/

namespace Datacenter

/-- The fields and their values; an empty endpoint is left out. -/
def entries (d : Datacenter) : List Entry :=
  [("id", some (text d.id)), ("name", some (text d.name)),
    ("endpoint", if d.endpoint.isEmpty then none else some (text d.endpoint))]

theorem toJson_eq (d : Datacenter) : d.toJson = record (members d.entries) := by
  unfold toJson entries fieldUnless
  split <;> rfl

theorem ofJson?_toJson (d : Datacenter) : ofJson? d.toJson = some d := by
  rw [toJson_eq, ofJson?, slots?_record fields d.entries rfl (by decide)]
  obtain ⟨id, name, endpoint⟩ := d
  by_cases h : endpoint = ""
  · subst h
    rfl
  · simp [entries, required, withDefault, asText, h]

theorem plain_toJson (d : Datacenter) : Plain d.toJson := by
  rw [toJson_eq]
  exact plain_members (by simp [entries, Plain.text])

end Datacenter

namespace Nic

/-- The fields and their values. -/
def entries (n : Nic) : List Entry :=
  [("name", some (text n.network)), ("ip", some (text n.address))]

theorem toJson_eq (n : Nic) : n.toJson = record (members n.entries) := rfl

theorem ofJson?_toJson (n : Nic) : ofJson? n.toJson = some n := by
  rw [toJson_eq, ofJson?, slots?_record fields n.entries rfl (by decide)]
  rfl

theorem plain_toJson (n : Nic) : Plain n.toJson := by
  rw [toJson_eq]
  exact plain_members (by simp [entries, Plain.text])

end Nic

namespace Machine

/-- The fields and their values; an absent host is left out. -/
def entries (m : Machine) : List Entry :=
  [("uuid", some (text m.uuid)), ("name", some (text m.name)),
    ("nics", some (array (m.nics.map Nic.toJson))),
    ("cpuNum", some (natural m.processors.toNat)), ("memory", some (natural m.memory.toNat)),
    ("guestosLabel", some (text m.guestLabel)), ("hostId", m.hostId.map text)]

theorem toJson_eq (m : Machine) : m.toJson = record (members m.entries) := by
  obtain ⟨uuid, name, nics, processors, memory, guestLabel, _ | hostId⟩ := m <;> rfl

theorem ofJson?_toJson (m : Machine) : ofJson? m.toJson = some m := by
  rw [toJson_eq, ofJson?, slots?_record fields m.entries rfl (by decide)]
  obtain ⟨uuid, name, nics, processors, memory, guestLabel, _ | hostId⟩ := m
  all_goals
    simp [entries, required, withDefault, asText, asTextOrNull, asList, readAll_map Nic.ofJson?_toJson,
      asUInt32_toNat, asUInt64_toNat]

theorem plain_toJson (m : Machine) : Plain m.toJson := by
  have hnics : Plain (array (m.nics.map Nic.toJson)) := by
    refine .array fun v hv => ?_
    obtain ⟨n, -, rfl⟩ := List.mem_map.mp hv
    exact n.plain_toJson
  rw [toJson_eq]
  exact plain_members (by simp [entries, Plain.text, Plain.natural, hnics])

end Machine

namespace Host

/-- The fields and their values. -/
def entries (h : Host) : List Entry :=
  [("id", some (text h.id)), ("hostName", some (text h.name)),
    ("dataCenterId", some (text h.datacenterId)), ("clusterId", some (text h.clusterId))]

theorem toJson_eq (h : Host) : h.toJson = record (members h.entries) := rfl

theorem ofJson?_toJson (h : Host) : ofJson? h.toJson = some h := by
  rw [toJson_eq, ofJson?, slots?_record fields h.entries rfl (by decide)]
  rfl

theorem plain_toJson (h : Host) : Plain h.toJson := by
  rw [toJson_eq]
  exact plain_members (by simp [entries, Plain.text])

end Host

namespace Tag

/-- The fields and their values. -/
def entries (t : Tag) : List Entry :=
  [("name", some (text t.name)), ("description", some (text t.description))]

theorem toJson_eq (t : Tag) : t.toJson = record (members t.entries) := rfl

theorem ofJson?_toJson (t : Tag) : ofJson? t.toJson = some t := by
  rw [toJson_eq, ofJson?, slots?_record fields t.entries rfl (by decide)]
  rfl

theorem plain_toJson (t : Tag) : Plain t.toJson := by
  rw [toJson_eq]
  exact plain_members (by simp [entries, Plain.text])

end Tag

theorem readRecord?_render {α : Type} {ofJson? : Json → Option α} {v : Json} {a : α} (hplain : Plain v)
    (hread : ofJson? v = some a) : readRecord? ofJson? (render v) = some a := by
  rw [readRecord?, parse?_render hplain, Option.bind_some, hread]

/-- Every datacenter, network interface, machine, host and tag is read back from the text that is
written for it. -/
theorem inventory_read_back :
    (∀ d : Datacenter, readRecord? Datacenter.ofJson? (render d.toJson) = some d) ∧
    (∀ n : Nic, readRecord? Nic.ofJson? (render n.toJson) = some n) ∧
    (∀ m : Machine, readRecord? Machine.ofJson? (render m.toJson) = some m) ∧
    (∀ h : Host, readRecord? Host.ofJson? (render h.toJson) = some h) ∧
    ∀ t : Tag, readRecord? Tag.ofJson? (render t.toJson) = some t :=
  ⟨fun d => readRecord?_render d.plain_toJson d.ofJson?_toJson,
    fun n => readRecord?_render n.plain_toJson n.ofJson?_toJson,
    fun m => readRecord?_render m.plain_toJson m.ofJson?_toJson,
    fun h => readRecord?_render h.plain_toJson h.ofJson?_toJson,
    fun t => readRecord?_render t.plain_toJson t.ofJson?_toJson⟩

-- The endpoint is left out, and quotes and control characters are escaped.
example : render (Datacenter.toJson ⟨"dc1", "\"East\"\x01", ""⟩) =
    "\x7b\"id\":\"dc1\",\"name\":\"\\\"East\\\"\\u0001\"\x7d" := by
  decide +kernel

end NodeAtlas
