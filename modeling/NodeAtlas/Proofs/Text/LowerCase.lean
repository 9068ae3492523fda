import NodeAtlas.Proofs.Text.Trim
import NodeAtlas.Text.LowerCase

/-!
# Lower-casing

No image of the case table is a member of it, and a small sigma stays as it is wherever it stands, so
that a text in lower case is its own image. No character becomes blank, so that lower-casing a trimmed
text leaves nothing to trim.
-/

namespace NodeAtlas.Text

/-! ## The table -/

namespace CaseRun

/-- The members of the run are all even or all odd. -/
def keepsParity (r : CaseRun) : Bool := r.step == 2 || r.first == r.last

/-- No image of one run is a member of the other: they are apart, or the ones are even and the
others odd. -/
def clears (r s : CaseRun) : Bool :=
  Nat.blt (r.image + (r.last - r.first)) s.first || Nat.blt s.last r.image ||
    (r.keepsParity && s.keepsParity && r.image % 2 != s.first % 2)

/-- All images are characters without a meaning of their own for trimming and lower-casing. -/
def isSettled (r : CaseRun) : Bool :=
  (List.range (r.last - r.first + 1)).all fun d =>
    (Char.ofNat (r.image + d)).toNat == r.image + d && !isBlank (Char.ofNat (r.image + d)) &&
      Char.ofNat (r.image + d) != 'Σ' && Char.ofNat (r.image + d) != 'İ'

variable {r s : CaseRun} {n m : Nat}

theorem image?_eq_some_iff : r.image? n = some m ↔
    (r.first ≤ n ∧ n ≤ r.last ∧ (n - r.first) % r.step = 0) ∧ r.image + (n - r.first) = m := by
  unfold image?
  split
  · rename_i h
    simp [h]
  · rename_i h
    simp [h]

theorem mod_two_of_keepsParity (h : r.keepsParity = true)
    (hmem : r.first ≤ n ∧ n ≤ r.last ∧ (n - r.first) % r.step = 0) : n % 2 = r.first % 2 := by
  unfold keepsParity at h
  obtain ⟨hfirst, hlast, hstep⟩ := hmem
  rcases Bool.or_eq_true_iff.mp h with h | h
  · rw [beq_iff_eq.mp h] at hstep
    omega
  · have heq := beq_iff_eq.mp h
    omega

theorem image?_of_clears (h : r.clears s = true) (hm : r.image? n = some m) : s.image? m = none := by
  obtain ⟨hr, rfl⟩ := image?_eq_some_iff.mp hm
  rw [Option.eq_none_iff_forall_ne_some]
  intro k hk
  obtain ⟨hs, -⟩ := image?_eq_some_iff.mp hk
  unfold clears at h
  simp only [Bool.or_eq_true, Bool.and_eq_true, Nat.blt_eq, bne_iff_ne] at h
  -- Runs that overlap are told apart by the parity of their members.
  obtain (h | h) | ⟨⟨hrparity, hsparity⟩, hne⟩ := h
  · omega
  · omega
  · have hn := mod_two_of_keepsParity hrparity hr
    have himage := mod_two_of_keepsParity hsparity hs
    omega

end CaseRun

theorem lowerRuns_clear : ∀ r ∈ lowerRuns, (lowerRuns.all fun s => r.clears s) = true := by
  decide +kernel

theorem lowerRuns_settled : ∀ r ∈ lowerRuns, r.isSettled = true := by
  decide +kernel

/-! ## Characters -/

/-- Lower-casing leaves the character as it is, wherever it stands. -/
def IsLower (c : Char) : Prop := c ≠ 'Σ' ∧ c ≠ 'İ' ∧ lowerOne c = c

variable {c : Char} {before after cs ds : List Char}

/-- What the table says about an image. -/
theorem lowerOne_cases (c : Char) :
    lowerOne c = c ∨ IsLower (lowerOne c) ∧ isBlank (lowerOne c) = false := by
  unfold lowerOne
  split
  · rename_i m hm
    right
    obtain ⟨r, hr, himage⟩ := List.exists_of_findSome?_eq_some hm
    obtain ⟨hn, rfl⟩ := CaseRun.image?_eq_some_iff.mp himage
    have hsettled := List.all_eq_true.mp (lowerRuns_settled r hr) (c.toNat - r.first)
      (List.mem_range.mpr (by omega))
    simp only [Bool.and_eq_true, beq_iff_eq, bne_iff_ne, Bool.not_eq_true'] at hsettled
    obtain ⟨⟨⟨hcode, hblank⟩, hsigma⟩, hdot⟩ := hsettled
    refine ⟨⟨hsigma, hdot, ?_⟩, hblank⟩
    -- The image is in no run of the table, so it is its own image.
    have hnone : (lowerRuns.findSome? fun s => s.image? (r.image + (c.toNat - r.first))) = none := by
      rw [List.findSome?_eq_none_iff]
      exact fun s hs => CaseRun.image?_of_clears (List.all_eq_true.mp (lowerRuns_clear r hr) s hs) himage
    rw [lowerOne, hcode, hnone]
  · exact .inl rfl

theorem isLower_lowerOne (hsigma : c ≠ 'Σ') (hdot : c ≠ 'İ') : IsLower (lowerOne c) := by
  rcases lowerOne_cases c with h | ⟨h, -⟩
  · rw [h]
    exact ⟨hsigma, hdot, h⟩
  · exact h

theorem isBlank_lowerOne (h : isBlank c = false) : isBlank (lowerOne c) = false := by
  rcases lowerOne_cases c with heq | ⟨-, hblank⟩
  · rw [heq, h]
  · exact hblank

/-- The characters that lower-casing does not look up in the table. -/
def unlisted : List Char := ['ς', 'σ', 'i', '\u0307']

theorem unlisted_settled : (unlisted.all fun d => d != 'Σ' && d != 'İ' && !isBlank d &&
    lowerRuns.all fun r => (r.image? d.toNat).isNone) = true := by
  decide +kernel

theorem isLower_unlisted {d : Char} (h : d ∈ unlisted) : IsLower d ∧ isBlank d = false := by
  have hsettled := List.all_eq_true.mp unlisted_settled d h
  simp only [Bool.and_eq_true, bne_iff_ne, Bool.not_eq_true', List.all_eq_true,
    Option.isNone_iff_eq_none] at hsettled
  obtain ⟨⟨⟨hsigma, hdot⟩, hblank⟩, habsent⟩ := hsettled
  refine ⟨⟨hsigma, hdot, ?_⟩, hblank⟩
  rw [lowerOne, List.findSome?_eq_none_iff.mpr habsent]

theorem mem_lowerIn {d : Char} (h : d ∈ lowerIn before c after) :
    d ∈ unlisted ∨ c ≠ 'Σ' ∧ c ≠ 'İ' ∧ d = lowerOne c := by
  unfold lowerIn at h
  split at h
  · left
    split at h
    · exact List.mem_singleton.mp h ▸ by decide
    · exact List.mem_singleton.mp h ▸ by decide
  · rename_i hsigma
    split at h
    · exact .inl (List.mem_of_mem_drop (i := 2) h)
    · rename_i hdot
      exact .inr ⟨hsigma, hdot, List.mem_singleton.mp h⟩

theorem isLower_of_mem_lowerIn {d : Char} (h : d ∈ lowerIn before c after) : IsLower d := by
  rcases mem_lowerIn h with hd | ⟨hsigma, hdot, rfl⟩
  · exact (isLower_unlisted hd).1
  · exact isLower_lowerOne hsigma hdot

theorem isBlank_of_mem_lowerIn {d : Char} (hc : isBlank c = false) (h : d ∈ lowerIn before c after) :
    isBlank d = false := by
  rcases mem_lowerIn h with hd | ⟨-, -, rfl⟩
  · exact (isLower_unlisted hd).2
  · exact isBlank_lowerOne hc

theorem lowerIn_ne_nil (before : List Char) (c : Char) (after : List Char) :
    lowerIn before c after ≠ [] := by
  unfold lowerIn
  split
  · exact List.cons_ne_nil _ _
  · split <;> exact List.cons_ne_nil _ _

theorem lowerIn_of_isLower (h : IsLower c) : lowerIn before c after = [c] := by
  obtain ⟨hsigma, hdot, hone⟩ := h
  rw [lowerIn, if_neg hsigma, if_neg hdot, hone]

/-! ## Texts -/

theorem isLower_of_mem_lowerFrom {d : Char} (h : d ∈ lowerFrom before cs) : IsLower d := by
  induction cs generalizing before with
  | nil => cases h
  | cons c cs ih =>
    rcases List.mem_append.mp h with h | h
    · exact isLower_of_mem_lowerIn h
    · exact ih h

theorem lowerFrom_of_isLower (h : ∀ c ∈ cs, IsLower c) : lowerFrom before cs = cs := by
  induction cs generalizing before with
  | nil => rfl
  | cons c cs ih =>
    rw [lowerFrom, lowerIn_of_isLower (h c List.mem_cons_self),
      ih fun d hd => h d (List.mem_cons_of_mem c hd)]
    rfl

theorem lowerCase_lowerCase (s : String) : lowerCase (lowerCase s) = lowerCase s := by
  unfold lowerCase
  rw [String.toList_ofList, lowerFrom_of_isLower fun _ => isLower_of_mem_lowerFrom]

/-! ## Ends -/

/-- The image of the last character comes last. -/
theorem lowerFrom_concat (before cs : List Char) (c : Char) :
    ∃ ds, lowerFrom before (cs ++ [c]) = ds ++ lowerIn (cs.reverse ++ before) c [] := by
  induction cs generalizing before with
  | nil => exact ⟨[], by simp [lowerFrom]⟩
  | cons b cs ih =>
    obtain ⟨ds, hds⟩ := ih (b :: before)
    refine ⟨lowerIn before b (cs ++ [c]) ++ ds, ?_⟩
    rw [List.cons_append, lowerFrom, hds]
    simp

/-- A text without blank characters at its ends keeps none there. -/
theorem trimChars_lowerFrom (h : trimChars cs = cs) :
    trimChars (lowerFrom before cs) = lowerFrom before cs := by
  obtain ⟨hhead, hlast⟩ := trimChars_eq_self_iff.mp h
  refine trimChars_eq_self_iff.mpr ⟨fun d hd => ?_, fun d hd => ?_⟩
  · cases cs with
    | nil => cases hd
    | cons c cs =>
      rw [lowerFrom, List.head?_append_of_ne_nil _ (lowerIn_ne_nil _ _ _)] at hd
      exact isBlank_of_mem_lowerIn (hhead c rfl) (List.mem_of_head? hd)
  · cases cs using List.reverseRecOn with
    | nil => cases hd
    | append_singleton cs c =>
      obtain ⟨ds, hds⟩ := lowerFrom_concat before cs c
      rw [hds, List.getLast?_append_of_ne_nil _ (lowerIn_ne_nil _ _ _)] at hd
      exact isBlank_of_mem_lowerIn (hlast c List.getLast?_concat) (List.mem_of_getLast? hd)

theorem trim_lowerCase_trim (s : String) : trim (lowerCase (trim s)) = lowerCase (trim s) := by
  unfold trim lowerCase
  rw [String.toList_ofList, String.toList_ofList, trimChars_lowerFrom (trimChars_trimChars _)]

end NodeAtlas.Text
