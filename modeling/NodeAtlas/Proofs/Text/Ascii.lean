import NodeAtlas.Text.Numeral

/-!
# Characters and numerals of the ASCII range

What holds of all characters below 128 can be looked up. Decimal digits that are read from the left give the
number that they write, as long as it stays within the limit.
-/

namespace NodeAtlas.Text

theorem of_ascii {P : Char → Prop} (h : ∀ n < 128, P (Char.ofNat n)) {c : Char} (hc : c.toNat < 128) :
    P c := by
  have hp := h c.toNat hc
  rwa [Char.ofNat_toNat] at hp

/-! ## Digits -/

theorem isDigit_iff {c : Char} : isDigit c = true ↔ 48 ≤ c.toNat ∧ c.toNat ≤ 57 := by
  have hcode : c.toNat = c.val.toNat := rfl
  have h0 : '0'.val.toNat = 48 := rfl
  have h9 : '9'.val.toNat = 57 := rfl
  simp only [isDigit, Bool.and_eq_true, decide_eq_true_eq, Char.le_def, UInt32.le_iff_toNat_le]
  omega

theorem digit?_of_isDigit {c : Char} (h : isDigit c = true) :
    digit? 10 c = some (c.toNat - '0'.toNat) := by
  have hcode := isDigit_iff.mp h
  refine of_ascii (P := fun c => isDigit c = true → digit? 10 c = some (c.toNat - '0'.toNat)) ?_
    (by omega) h
  decide

theorem isDigit_of_digit? {radix d : Nat} (hradix : radix ≤ 10) {c : Char} (h : digit? radix c = some d) :
    isDigit c = true := by
  unfold digit? at h
  by_cases hc : '0' ≤ c ∧ c ≤ '9'
  · simp [isDigit, hc.1, hc.2]
  · rw [if_neg hc] at h
    split at h
    · simp at h
      omega
    · split at h
      · simp at h
        omega
      · cases h

theorem lt_of_digit? {radix : Nat} {c : Char} (h : (digit? radix c).isSome) : c.toNat < 128 := by
  have hle : ∀ {x : Char}, c ≤ x → c.toNat ≤ x.toNat := by
    intro x hx
    exact UInt32.le_iff_toNat_le.mp hx
  have h9 : '9'.toNat = 57 := rfl
  have hf : 'f'.toNat = 102 := rfl
  have hF : 'F'.toNat = 70 := rfl
  by_cases hdigit : '0' ≤ c ∧ c ≤ '9'
  · have hcode := hle hdigit.2
    omega
  by_cases hlower : 'a' ≤ c ∧ c ≤ 'f'
  · have hcode := hle hlower.2
    omega
  by_cases hupper : 'A' ≤ c ∧ c ≤ 'F'
  · have hcode := hle hupper.2
    omega
  rw [digit?, if_neg hdigit, if_neg hlower, if_neg hupper] at h
  cases h

/-! ## Numerals -/

section Numerals

variable {cs : List Char} {acc limit : Nat}

theorem le_ofDigitChars (cs : List Char) (acc : Nat) : acc ≤ Nat.ofDigitChars 10 cs acc := by
  induction cs generalizing acc with
  | nil => exact Nat.le_refl _
  | cons c cs ih =>
    have hrest := ih (10 * acc + (c.toNat - '0'.toNat))
    unfold Nat.ofDigitChars at hrest ⊢
    rw [List.foldl_cons]
    omega

theorem readDigits_eq_ok (h : ∀ c ∈ cs, isDigit c = true) (hle : Nat.ofDigitChars 10 cs acc ≤ limit) :
    readDigits 10 limit acc cs = .ok (Nat.ofDigitChars 10 cs acc) := by
  induction cs generalizing acc with
  | nil => rfl
  | cons c cs ih =>
    have hstep : Nat.ofDigitChars 10 (c :: cs) acc =
        Nat.ofDigitChars 10 cs (acc * 10 + (c.toNat - '0'.toNat)) := by
      rw [Nat.mul_comm acc]
      rfl
    have hrest := le_ofDigitChars cs (acc * 10 + (c.toNat - '0'.toNat))
    rw [hstep] at hle ⊢
    simp only [readDigits, digit?_of_isDigit (h c List.mem_cons_self)]
    rw [if_pos (by omega)]
    exact ih (fun d hd => h d (List.mem_cons_of_mem _ hd)) hle

theorem isDigit_of_mem_toDigits {c : Char} {n : Nat} (h : c ∈ Nat.toDigits 10 n) : isDigit c = true :=
  Nat.isDigit_of_mem_toDigits (by decide) (by decide) h

/-- A number is read back from its digits. -/
theorem readDigits_toDigits {n : Nat} (h : n ≤ limit) :
    readDigits 10 limit 0 (Nat.toDigits 10 n) = .ok n := by
  have hvalue : Nat.ofDigitChars 10 (Nat.toDigits 10 n) 0 = n := Nat.ofDigitChars_ten_toDigits
  rw [readDigits_eq_ok (fun c hc => isDigit_of_mem_toDigits hc) (by rwa [hvalue]), hvalue]

end Numerals

end NodeAtlas.Text
