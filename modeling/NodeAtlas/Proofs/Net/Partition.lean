import Mathlib.Data.List.Forall2
import NodeAtlas.Proofs.Address.Selection
import NodeAtlas.Proofs.Net.Locality

/-!
# Sorting by family

The two families share out the addresses that other machines can reach: every text of such an address
comes under exactly one of them, as often and in the order in which it is given, and all other texts come
under none.
-/

namespace NodeAtlas.Net

open NodeAtlas.Text

variable {f : Family} {s : String} {ip : Address} {texts : List String}

/-- Without the blank characters at its ends, the text is an address. -/
def Reads (s : String) (ip : Address) : Prop := Address.parse? (trim s) = some ip

theorem Reads.unique {ip' : Address} (h : Reads s ip) (h' : Reads s ip') : ip = ip' :=
  Option.some.inj (h.symm.trans h')

theorem isLocalOnly_text_iff : isLocalOnly s = true ↔ ∀ ip, Reads s ip → ip.IsLocal := by
  unfold isLocalOnly
  constructor
  · intro h ip hread
    rw [hread] at h
    exact Address.isLocalOnly_iff.mp h
  · intro h
    cases hread : Address.parse? (trim s) with
    | none => rfl
    | some ip => exact Address.isLocalOnly_iff.mpr (h ip hread)

theorem Address.family_eq_ipv4_iff :
    ip.family = .ipv4 ↔ ∃ v : Ipv4, ip = .v4 v ∨ ip = .v6 v.embed := by
  rw [eq_comm, ← Family.includes_iff]
  cases ip with
  | v4 v => simp [Family.includes]
  | v6 ip =>
    rw [Family.includes, Option.isSome_iff_exists]
    simp only [Ipv6.mapped?_eq_some_iff, Address.v6.injEq, reduceCtorEq, false_or]

namespace Family

/-- What a text contributes to the addresses of a family. -/
def contribution (f : Family) (s : String) : Option Address :=
  if isLocalOnly (trim s) then none else (Address.parse? (trim s)).filter f.includes

theorem routable_eq (f : Family) (texts : List String) :
    f.routable texts = texts.filterMap f.contribution := rfl

theorem contribution_eq_some_iff :
    f.contribution s = some ip ↔ Reads s ip ∧ ¬ ip.IsLocal ∧ ip.family = f := by
  have hlocal : isLocalOnly (trim s) = isLocalOnly s := by
    unfold isLocalOnly
    rw [trim_trim]
  have hfamily : f.includes ip = true ↔ ip.family = f := includes_iff.trans eq_comm
  unfold contribution
  rw [hlocal, ← hfamily]
  by_cases hs : isLocalOnly s = true
  · rw [if_pos hs]
    constructor
    · intro h
      cases h
    · rintro ⟨hread, hreachable, -⟩
      exact absurd (isLocalOnly_text_iff.mp hs ip hread) hreachable
  · rw [if_neg hs, Option.filter_eq_some_iff]
    refine and_congr_right fun hread => ?_
    have hreachable : ¬ ip.IsLocal := by
      intro hip
      refine hs (isLocalOnly_text_iff.mpr fun ip' hread' => ?_)
      exact Reads.unique hread hread' ▸ hip
    exact (and_iff_right hreachable).symm

/-- What comes under each family. -/
structure Sorts (texts : List String) (kept : Family → List String) : Prop where
  /-- Texts are selected, and none changes its place. -/
  sublist : ∀ f, (kept f).Sublist texts
  /-- The addresses of a family are those of its texts, one after another. -/
  reads : ∀ f, List.Forall₂ Reads (kept f) (f.routable texts)
  /-- A text of an address for other machines comes under one family, as often as it is given. -/
  once : ∀ s ip, Reads s ip → ¬ ip.IsLocal →
    (kept ip.family).count s = texts.count s ∧ ∀ f ≠ ip.family, s ∉ kept f
  /-- Any other text comes under none. -/
  never : ∀ s, (∀ ip, Reads s ip → ip.IsLocal) → ∀ f, s ∉ kept f

theorem forall₂_filterMap {α β : Type} (g : α → Option β) (xs : List α) :
    List.Forall₂ (fun x y => g x = some y) (xs.filter fun x => (g x).isSome) (xs.filterMap g) := by
  induction xs with
  | nil => exact .nil
  | cons x xs ih =>
    cases hx : g x with
    | none =>
      rw [List.filter_cons_of_neg (by simp [hx]), List.filterMap_cons_none hx]
      exact ih
    | some y =>
      rw [List.filter_cons_of_pos (by simp [hx]), List.filterMap_cons_some hx]
      exact .cons hx ih

theorem sorts_contributors (texts : List String) :
    Sorts texts fun f => texts.filter fun s => (f.contribution s).isSome where
  sublist _ := List.filter_sublist
  reads f := by
    rw [routable_eq]
    exact (forall₂_filterMap f.contribution texts).imp fun _ _ h => (contribution_eq_some_iff.mp h).1
  once s ip hread hreachable := by
    have hcontributes : ip.family.contribution s = some ip :=
      contribution_eq_some_iff.mpr ⟨hread, hreachable, rfl⟩
    refine ⟨List.count_filter (by rw [hcontributes]; rfl), fun f hf hmem => ?_⟩
    obtain ⟨ip', hip'⟩ := Option.isSome_iff_exists.mp (List.mem_filter.mp hmem).2
    obtain ⟨hread', -, hfamily⟩ := contribution_eq_some_iff.mp hip'
    rw [← hread.unique hread'] at hfamily
    exact hf hfamily.symm
  never s hlocal f hmem := by
    obtain ⟨ip, hip⟩ := Option.isSome_iff_exists.mp (List.mem_filter.mp hmem).2
    obtain ⟨hread, hreachable, -⟩ := contribution_eq_some_iff.mp hip
    exact hreachable (hlocal ip hread)

theorem mem_routable_iff :
    ip ∈ f.routable texts ↔ ∃ s ∈ texts, Reads s ip ∧ ¬ ip.IsLocal ∧ ip.family = f := by
  simp only [routable_eq, List.mem_filterMap, contribution_eq_some_iff]

/-- Other machines can reach the addresses that lie in no local block and embed no address that does, and
each of them belongs to one of the families: to IPv4 if it is an IPv4 address or embeds one, and then it is
judged as that address. The addresses of the families are read from texts in their order; the text of such
an address counts for one family as often as it is given, and any other text for none. So no address of
either family is one of loopback or of link scope. -/
theorem routable_partition (texts : List String) :
    (∀ s, isLocalOnly s = true ↔ ∀ ip, Reads s ip → ip.IsLocal) ∧
    (∃ kept, Sorts texts kept) ∧
    (∀ ip : Address, ip.family = .ipv4 ↔ ∃ v : Ipv4, ip = .v4 v ∨ ip = .v6 v.embed) ∧
    (∀ v : Ipv4, (Address.v6 v.embed).isLocalOnly = (Address.v4 v).isLocalOnly ∧
      ∀ f : Family, f.includes (.v6 v.embed) = f.includes (.v4 v)) ∧
    ∀ (f : Family) (ip : Address), ip ∈ f.routable texts → f.includes ip = true ∧
      ∀ blocks ∈ [loopbackBlocks, linkLocalBlocks, linkLocalMulticastBlocks],
        ¬ ip.LiesIn blocks ∧ ∀ v : Ipv4, ip = .v6 v.embed → ¬ (Address.v4 v).LiesIn blocks := by
  refine ⟨fun s => isLocalOnly_text_iff, ⟨_, sorts_contributors texts⟩, fun ip =>
    Address.family_eq_ipv4_iff, fun v => ⟨Address.isLocalOnly_embed v, fun f => ?_⟩, ?_⟩
  · cases f
    all_goals simp [includes, Ipv6.mapped?_embed]
  · intro f ip hmem
    obtain ⟨s, -, -, hreachable, hfamily⟩ := mem_routable_iff.mp hmem
    refine ⟨includes_iff.mpr hfamily.symm, fun blocks hblocks => ?_⟩
    have hwhole : ∀ {ip' : Address}, ip'.LiesIn blocks → ip'.LiesIn localBlocks := by
      intro ip' hlies
      rw [localBlocks, Address.liesIn_append_iff, Address.liesIn_append_iff]
      rcases List.mem_cons.mp hblocks with rfl | hblocks
      · exact .inl (.inl hlies)
      · rcases List.mem_cons.mp hblocks with rfl | hblocks
        · exact .inl (.inr hlies)
        · obtain rfl := List.mem_singleton.mp hblocks
          exact .inr hlies
    refine ⟨fun hlies => hreachable (.inl (hwhole hlies)), ?_⟩
    rintro v rfl hlies
    exact hreachable (.inr ⟨v, rfl, hwhole hlies⟩)

/-- An address that is given twice counts twice for IPv4, beside its embedded form, while an address of link
scope counts for no family in its embedded form either. -/
theorem routable_partition_mixed :
    ∃ kept, Sorts ["10.0.0.5", "::ffff:169.254.0.1", "::ffff:10.0.0.5", "10.0.0.5"] kept ∧
      (kept .ipv4).count "10.0.0.5" = 2 ∧ "10.0.0.5" ∉ kept .ipv6 ∧
      ∀ f, "::ffff:169.254.0.1" ∉ kept f := by
  obtain ⟨hlocal, ⟨kept, hsorts⟩, hfamily, -⟩ :=
    routable_partition ["10.0.0.5", "::ffff:169.254.0.1", "::ffff:10.0.0.5", "10.0.0.5"]
  have hread : Reads "10.0.0.5" (.v4 ⟨10, 0, 0, 5⟩) := by
    unfold Reads
    decide +kernel
  have hreachable : ¬ (Address.v4 ⟨10, 0, 0, 5⟩).IsLocal := by
    rw [← Address.isLocalOnly_iff]
    decide
  have hipv4 : (Address.v4 ⟨10, 0, 0, 5⟩).family = .ipv4 := (hfamily _).mpr ⟨_, .inl rfl⟩
  obtain ⟨hcount, hother⟩ := hsorts.once _ _ hread hreachable
  rw [hipv4] at hcount hother
  refine ⟨kept, hsorts, hcount.trans (by decide), hother .ipv6 (by decide), hsorts.never _ ?_⟩
  exact (hlocal _).mp (by decide +kernel)

end Family

end NodeAtlas.Net
