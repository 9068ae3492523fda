import Mathlib.Data.List.DropRight
import NodeAtlas.Text.Blank

/-!
# Trimming

A text that has been trimmed begins and ends without a blank character, so that trimming it once more
changes nothing.
-/

namespace NodeAtlas.Text

theorem dropEndWhile_eq (p : Char → Bool) (cs : List Char) : dropEndWhile p cs = cs.rdropWhile p :=
  rfl

/-- What is left at the front after trimming stays when the end is trimmed too. -/
theorem dropWhile_rdropWhile {p : Char → Bool} {cs : List Char} (h : cs.dropWhile p = cs) :
    (cs.rdropWhile p).dropWhile p = cs.rdropWhile p := by
  cases hcs : cs.rdropWhile p with
  | nil => rfl
  | cons c rest =>
    obtain ⟨last, hlast⟩ := List.rdropWhile_prefix p (l := cs)
    rw [hcs, List.cons_append] at hlast
    have hc : p c = false := by
      rw [← hlast] at h
      by_contra hblank
      rw [List.dropWhile_cons_of_pos (by simpa using hblank)] at h
      have hlong := congrArg List.length h
      have hshort := (List.dropWhile_suffix p (l := rest ++ last)).length_le
      simp only [List.length_cons] at hlong
      omega
    exact List.dropWhile_cons_of_neg (by simp [hc])

theorem trimChars_trimChars (cs : List Char) : trimChars (trimChars cs) = trimChars cs := by
  unfold trimChars
  rw [dropEndWhile_eq, dropEndWhile_eq, dropWhile_rdropWhile (List.dropWhile_idempotent _ _)]
  exact List.rdropWhile_idempotent _ _

theorem dropWhile_eq_self_iff_head? {α : Type} {p : α → Bool} {cs : List α} :
    cs.dropWhile p = cs ↔ ∀ c ∈ cs.head?, p c = false := by
  rw [List.dropWhile_eq_self_iff]
  cases cs <;> simp

theorem rdropWhile_eq_self_iff_getLast? {α : Type} {p : α → Bool} {cs : List α} :
    cs.rdropWhile p = cs ↔ ∀ c ∈ cs.getLast?, p c = false := by
  rw [List.rdropWhile_eq_self_iff]
  cases cs using List.reverseRecOn <;> simp

theorem trimChars_eq_self_iff {cs : List Char} : trimChars cs = cs ↔
    (∀ c ∈ cs.head?, isBlank c = false) ∧ ∀ c ∈ cs.getLast?, isBlank c = false := by
  rw [← dropWhile_eq_self_iff_head?, ← rdropWhile_eq_self_iff_getLast?]
  constructor
  · intro h
    rw [← h, trimChars, dropEndWhile_eq]
    exact ⟨dropWhile_rdropWhile (List.dropWhile_idempotent _ _), List.rdropWhile_idempotent _ _⟩
  · rintro ⟨hhead, hlast⟩
    rw [trimChars, dropEndWhile_eq, hhead, hlast]

theorem trim_trim (s : String) : trim (trim s) = trim s := by
  unfold trim
  rw [String.toList_ofList, trimChars_trimChars]

theorem trim_eq_empty_iff {s : String} : trim s = "" ↔ isBlankText s = true := by
  unfold trim isBlankText
  rw [← String.toList_inj, String.toList_ofList, String.toList_empty, List.all_eq_true, trimChars,
    dropEndWhile_eq, List.rdropWhile_eq_nil_iff]
  constructor
  · intro h c hc
    rw [← List.takeWhile_append_dropWhile (p := isBlank) (l := s.toList)] at hc
    rcases List.mem_append.mp hc with hc | hc
    · exact List.mem_takeWhile_imp hc
    · exact h c hc
  · intro h c hc
    exact h c ((List.dropWhile_suffix _).subset hc)

end NodeAtlas.Text
