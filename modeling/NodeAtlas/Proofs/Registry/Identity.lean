import NodeAtlas.NodeId
import NodeAtlas.Proofs.Text.LowerCase

/-!
# Identity

A canonical UUID is its own canonical form, so it is read back from the provider id that is made of
it.
-/

namespace NodeAtlas

open NodeAtlas.Text

variable {p u : String} {i : NodeId}

theorem trim_canonicalize (raw : String) : trim (canonicalize raw) = canonicalize raw :=
  trim_lowerCase_trim raw

theorem canonicalize_canonicalize (raw : String) :
    canonicalize (canonicalize raw) = canonicalize raw := by
  rw [canonicalize, trim_canonicalize, canonicalize, lowerCase_lowerCase]

theorem trim_eq_self_iff : trim u = u ↔ trimChars u.toList = u.toList := by
  rw [trim, ← String.toList_inj, String.toList_ofList]

/-- Something visible in front of a trimmed text leaves it trimmed. -/
theorem trim_append {scheme : String} (hscheme : ∃ c cs, scheme.toList = c :: cs ∧ isBlank c = false)
    (hu : trim u = u) (hne : u ≠ "") : trim (scheme ++ u) = scheme ++ u := by
  obtain ⟨c, cs, hcs, hc⟩ := hscheme
  rw [trim_eq_self_iff, trimChars_eq_self_iff] at hu ⊢
  have hlist : u.toList ≠ [] := fun h => hne (String.toList_inj.mp h)
  rw [String.toList_append]
  refine ⟨fun d hd => ?_, fun d hd => ?_⟩
  · rw [hcs] at hd
    cases hd
    exact hc
  · rw [List.getLast?_append_of_ne_nil _ hlist] at hd
    exact hu.2 d hd

namespace NodeId

/-- What is read from a provider id is canonical and not empty. -/
theorem of_ofProviderId (h : ofProviderId p = .ok i) :
    canonicalize i.uuid = i.uuid ∧ i.uuid ≠ "" := by
  unfold ofProviderId at h
  simp only at h
  split at h
  · cases h
  · rename_i hempty
    obtain rfl := Except.ok.inj h
    refine ⟨canonicalize_canonicalize _, fun heq => hempty ?_⟩
    exact String.isEmpty_iff.mpr heq

/-- A canonical UUID is read back from its provider id. -/
theorem ofProviderId_providerId (hi : canonicalize i.uuid = i.uuid) (hne : i.uuid ≠ "") :
    ofProviderId i.providerId = .ok i := by
  have htrim : trim i.uuid = i.uuid := by
    rw [← hi, trim_canonicalize]
  have hscheme : ∃ c cs, providerScheme.toList = c :: cs ∧ isBlank c = false :=
    ⟨'i', ['c', 's', ':', '/', '/'], rfl, by decide⟩
  have hdrop : dropLead? providerScheme i.providerId = some i.uuid := dropLead?_eq_some.mpr rfl
  have hof : ofRaw i.uuid = i := by rw [ofRaw, hi]
  have hempty : i.isEmpty = false := by simpa [isEmpty] using hne
  unfold ofProviderId
  simp only
  rw [providerId, trim_append hscheme htrim hne, ← providerId, hdrop, Option.getD_some, hof, hempty]
  rfl

end NodeId

end NodeAtlas
