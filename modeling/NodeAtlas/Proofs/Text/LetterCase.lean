import NodeAtlas.Proofs.Text.Ascii
import NodeAtlas.Proofs.Text.LowerCase

/-!
# The case of ASCII letters

A capital letter of the ASCII range and its small letter count as cased and not as ignorable, and both have
the small letter as their image. So neither trimming nor lower-casing a text, with its look at the
neighbours of every capital sigma, depends on the case of such letters.
-/

namespace NodeAtlas.Text

/-- Trimming and lower-casing treat the characters alike, also as neighbours of others. -/
structure Interchangeable (c d : Char) : Prop where
  blank : isBlank d = isBlank c
  cased : inRanges casedRanges d = inRanges casedRanges c
  ignorable : inRanges caseIgnorableRanges d = inRanges caseIgnorableRanges c
  sigma : d = 'Σ' ↔ c = 'Σ'
  dot : d = 'İ' ↔ c = 'İ'
  lower : lowerOne d = lowerOne c

variable {c : Char} {before cs ds : List Char}

theorem isAlpha_iff : c.isAlpha = true ↔ 65 ≤ c.toNat ∧ c.toNat ≤ 90 ∨ 97 ≤ c.toNat ∧ c.toNat ≤ 122 := by
  change (decide ('A'.val ≤ c.val ∧ c.val ≤ 'Z'.val) ||
    (decide ('a'.val ≤ c.val) && decide (c.val ≤ 'z'.val))) = true ↔ _
  simp only [Bool.or_eq_true, Bool.and_eq_true, decide_eq_true_eq, UInt32.le_iff_toNat_le]
  exact .rfl

/-- No letter of the ASCII range is ignored. -/
theorem ignorable_apart_from_letters : (caseIgnorableRanges.all fun r =>
    Nat.blt r.2 65 || (Nat.blt 90 r.1 && Nat.blt r.2 97) || Nat.blt 122 r.1) = true := by
  decide +kernel

theorem not_ignorable_of_isAlpha (h : c.isAlpha = true) : inRanges caseIgnorableRanges c = false := by
  have hcode := isAlpha_iff.mp h
  rw [inRanges, List.any_eq_false]
  intro r hr hin
  have hapart := List.all_eq_true.mp ignorable_apart_from_letters r hr
  simp only [Bool.or_eq_true, Bool.and_eq_true, Nat.blt_eq] at hapart
  simp only [Bool.and_eq_true, decide_eq_true_eq] at hin
  omega

theorem letter_cases (h : c.isAlpha = true) :
    isBlank c = false ∧ inRanges casedRanges c = true ∧ c ≠ 'Σ' ∧ c ≠ 'İ' := by
  have hcode := isAlpha_iff.mp h
  refine of_ascii (P := fun c => c.isAlpha = true →
    isBlank c = false ∧ inRanges casedRanges c = true ∧ c ≠ 'Σ' ∧ c ≠ 'İ') ?_ (by omega) h
  decide +kernel

theorem capital_cases (h : c.isUpper = true) : c.toLower.isAlpha = true ∧ lowerOne c = c.toLower := by
  have hcode := isAlpha_iff.mp (Bool.or_eq_true_iff.mpr (.inl h))
  refine of_ascii (P := fun c => c.isUpper = true → c.toLower.isAlpha = true ∧ lowerOne c = c.toLower) ?_
    (by omega) h
  decide +kernel

theorem interchangeable_toLower (c : Char) : Interchangeable c c.toLower := by
  by_cases hc : c.isUpper = true
  · have hletter : c.isAlpha = true := Bool.or_eq_true_iff.mpr (.inl hc)
    obtain ⟨hsmall, hlower⟩ := capital_cases hc
    obtain ⟨hblank, hcased, hsigma, hdot⟩ := letter_cases hletter
    obtain ⟨hblank', hcased', hsigma', hdot'⟩ := letter_cases hsmall
    -- The small letter is an image, and so it is its own image.
    have hfixed : lowerOne c.toLower = lowerOne c := by
      have hkept := (isLower_lowerOne hsigma hdot).2.2
      rwa [hlower] at hkept ⊢
    exact ⟨hblank'.trans hblank.symm, hcased'.trans hcased.symm,
      (not_ignorable_of_isAlpha hsmall).trans (not_ignorable_of_isAlpha hletter).symm,
      iff_of_false hsigma' hsigma, iff_of_false hdot' hdot, hfixed⟩
  · have hsame : c.toLower = c := dif_neg fun hrange => hc (decide_eq_true hrange)
    rw [hsame]
    exact ⟨rfl, rfl, rfl, .rfl, .rfl, rfl⟩

/-! ## Lower-casing -/

theorem dropWhile_map_toLower {p : Char → Bool} (h : ∀ c : Char, p c.toLower = p c) (cs : List Char) :
    (cs.map Char.toLower).dropWhile p = (cs.dropWhile p).map Char.toLower := by
  have hcomp : p ∘ Char.toLower = p := funext h
  rw [List.dropWhile_map, hcomp]

theorem meetsCased_map_toLower (cs : List Char) : meetsCased (cs.map Char.toLower) = meetsCased cs := by
  unfold meetsCased
  rw [dropWhile_map_toLower fun c => (interchangeable_toLower c).ignorable]
  cases cs.dropWhile (inRanges caseIgnorableRanges) with
  | nil => rfl
  | cons d ds => exact (interchangeable_toLower d).cased

theorem lowerIn_map_toLower (before : List Char) (c : Char) (after : List Char) :
    lowerIn (before.map Char.toLower) c.toLower (after.map Char.toLower) = lowerIn before c after := by
  have h := interchangeable_toLower c
  unfold lowerIn isFinalSigma
  simp only [h.sigma, h.dot, h.lower, meetsCased_map_toLower]

theorem lowerFrom_map_toLower (before cs : List Char) :
    lowerFrom (before.map Char.toLower) (cs.map Char.toLower) = lowerFrom before cs := by
  induction cs generalizing before with
  | nil => rfl
  | cons c cs ih =>
    have hrest := ih (c :: before)
    rw [List.map_cons] at hrest
    rw [List.map_cons, lowerFrom, lowerFrom, lowerIn_map_toLower, hrest]

/-! ## Trimming -/

theorem trimChars_map_toLower (cs : List Char) :
    trimChars (cs.map Char.toLower) = (trimChars cs).map Char.toLower := by
  have hdrop : ∀ ds : List Char, (ds.map Char.toLower).dropWhile isBlank =
      (ds.dropWhile isBlank).map Char.toLower :=
    dropWhile_map_toLower fun c => (interchangeable_toLower c).blank
  unfold trimChars dropEndWhile
  rw [hdrop, ← List.map_reverse, hdrop, List.map_reverse]

/-- Blank characters in front and behind are not there for trimming. -/
theorem trimChars_pad {front back : List Char} (hfront : ∀ c ∈ front, isBlank c = true)
    (hback : ∀ c ∈ back, isBlank c = true) (cs : List Char) :
    trimChars (front ++ cs ++ back) = trimChars cs := by
  have hnone : back.dropWhile isBlank = [] := List.dropWhile_eq_nil_iff.mpr hback
  have hend : ∀ ds : List Char, (ds ++ back).rdropWhile isBlank = ds.rdropWhile isBlank := by
    intro ds
    unfold List.rdropWhile
    rw [List.reverse_append, List.dropWhile_append_of_pos fun c hc => hback c (List.mem_reverse.mp hc)]
  unfold trimChars
  rw [List.append_assoc, List.dropWhile_append_of_pos hfront, List.dropWhile_append, hnone, dropEndWhile_eq,
    dropEndWhile_eq]
  split
  · rename_i hempty
    rw [List.isEmpty_iff.mp hempty]
  · exact hend _

end NodeAtlas.Text
