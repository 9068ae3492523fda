import NodeAtlas.Atlas.Registry
import NodeAtlas.Proofs.Registry.Identity
import NodeAtlas.Proofs.Text.LetterCase

/-!
# Spellings of a UUID

Blank characters around a UUID and the case of its ASCII letters do not matter: all spellings have one
canonical form, which is kept by what is written for it, and a registry answers alike for all of them.
-/

namespace NodeAtlas

open NodeAtlas.Text

variable {s t u : String} {r : Registry}

/-- The text consists of another one with blank characters around it. -/
def Pads (s u : String) : Prop :=
  ∃ front back, isBlankText front = true ∧ isBlankText back = true ∧ s = front ++ u ++ back

/-- The texts differ in nothing but the blank characters around them and the case of ASCII letters. -/
def Respells (s t : String) : Prop := ∃ u v, Pads s u ∧ Pads t v ∧ sameIgnoringCase u v = true

theorem trim_of_pads (h : Pads s u) : trim s = trim u := by
  obtain ⟨front, back, hfront, hback, rfl⟩ := h
  have hblank : ∀ {w : String}, isBlankText w = true → ∀ c ∈ w.toList, isBlank c = true :=
    fun hw => List.all_eq_true.mp hw
  unfold trim
  rw [String.toList_append, String.toList_append, trimChars_pad (hblank hfront) (hblank hback)]

theorem canonicalize_eq (s : String) :
    canonicalize s = String.ofList (lowerFrom [] (trimChars s.toList)) := by
  unfold canonicalize lowerCase trim
  rw [String.toList_ofList]

theorem canonicalize_of_pads (h : Pads s u) : canonicalize s = canonicalize u := by
  unfold canonicalize
  rw [trim_of_pads h]

theorem canonicalize_of_sameIgnoringCase (h : sameIgnoringCase s t = true) :
    canonicalize s = canonicalize t := by
  have hmap : s.toList.map Char.toLower = t.toList.map Char.toLower := beq_iff_eq.mp h
  have hform : ∀ w : String, lowerFrom [] (trimChars w.toList) =
      lowerFrom [] (trimChars (w.toList.map Char.toLower)) := by
    intro w
    rw [trimChars_map_toLower]
    exact (lowerFrom_map_toLower [] _).symm
  rw [canonicalize_eq, canonicalize_eq, hform s, hform t, hmap]

theorem canonicalize_of_respells (h : Respells s t) : canonicalize s = canonicalize t := by
  obtain ⟨u, v, hs, ht, hcase⟩ := h
  calc canonicalize s
    _ = canonicalize u := canonicalize_of_pads hs
    _ = canonicalize v := canonicalize_of_sameIgnoringCase hcase
    _ = canonicalize t := (canonicalize_of_pads ht).symm

namespace Registry

theorem info_congr (h : canonicalize s = canonicalize t) : r.info s = r.info t := by
  unfold info
  rw [h]

theorem isRegistered_congr (h : canonicalize s = canonicalize t) : r.isRegistered s = r.isRegistered t := by
  unfold isRegistered
  rw [h]

theorem node_congr (h : canonicalize s = canonicalize t) : r.node s = r.node t := by
  unfold node
  rw [info_congr h]

/-- The canonical form of a UUID is its own canonical form, and all spellings have the same one. If there is
any UUID at all, it is read back from the provider id that is written for it, and so is every UUID that has
been read from a provider id. A registry answers alike for all texts with one canonical form, so for all
spellings of a UUID. -/
theorem alike_for_all_spellings :
    (∀ s, canonicalize (canonicalize s) = canonicalize s) ∧
    (∀ s t, Respells s t → canonicalize s = canonicalize t) ∧
    (∀ s, canonicalize s ≠ "" → NodeId.ofProviderId (NodeId.ofRaw s).providerId = .ok (NodeId.ofRaw s)) ∧
    (∀ p i, NodeId.ofProviderId p = .ok i → NodeId.ofProviderId i.providerId = .ok i) ∧
    ∀ (r : Registry) (s t : String), canonicalize s = canonicalize t →
      r.info s = r.info t ∧ r.node s = r.node t ∧ r.isRegistered s = r.isRegistered t := by
  refine ⟨canonicalize_canonicalize, fun s t h => canonicalize_of_respells h, ?_, ?_, ?_⟩
  · intro s hne
    exact NodeId.ofProviderId_providerId (canonicalize_canonicalize s) hne
  · intro p i hi
    obtain ⟨hcanonical, hne⟩ := NodeId.of_ofProviderId hi
    exact NodeId.ofProviderId_providerId hcanonical hne
  · intro r s t h
    exact ⟨info_congr h, node_congr h, isRegistered_congr h⟩

/-- A sigma ends its word whatever the case of the letter before it. -/
theorem alike_for_all_spellings_sigma :
    Respells "\u3000NODE-AΣ\n" "node-aΣ" ∧
      ∀ r : Registry, r.info "\u3000NODE-AΣ\n" = r.info "node-aΣ" ∧ r.node "node-aς" = r.node "node-aΣ" := by
  obtain ⟨-, hcanonical, -, -, halike⟩ := alike_for_all_spellings
  have hrespells : Respells "\u3000NODE-AΣ\n" "node-aΣ" :=
    ⟨"NODE-AΣ", "node-aΣ", ⟨"\u3000", "\n", by decide, by decide, by decide⟩, ⟨"", "", rfl, rfl, by decide⟩,
      by decide⟩
  have hfinal : canonicalize "node-aς" = canonicalize "node-aΣ" := by decide +kernel
  refine ⟨hrespells, fun r => ?_⟩
  obtain ⟨hinfo, -, -⟩ := halike r _ _ (hcanonical _ _ hrespells)
  obtain ⟨-, hnode, -⟩ := halike r _ _ hfinal
  exact ⟨hinfo, hnode⟩

end Registry

end NodeAtlas
