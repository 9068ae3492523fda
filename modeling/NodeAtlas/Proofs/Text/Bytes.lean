import Mathlib.Data.String.Basic
import Mathlib.Tactic.SplitIfs

/-!
# The bytes of texts

A character of ASCII has one byte, its code, and the bytes of all others are beyond ASCII. Texts are ordered
by their characters. The same order comes out when their bytes in UTF-8 are compared:
a greater character begins with a greater byte, or it takes the same number of bytes and the first one
that differs is greater.
-/

namespace NodeAtlas.Text

/-- The bytes of a text in UTF-8. -/
def bytes (s : String) : List UInt8 := s.toUTF8.data.toList

theorem bytes_eq (s : String) : bytes s = s.toList.flatMap String.utf8EncodeChar := by
  have hencode : (String.ofList s.toList).toByteArray = s.toList.utf8Encode :=
    String.toByteArray_ofList
  rw [String.ofList_toList] at hencode
  rw [bytes, String.toUTF8_eq_toByteArray, hencode, List.utf8Encode, List.toList_data_toByteArray]

/-! ## Single characters -/

theorem utf8EncodeChar_of_lt {c : Char} (h : c.toNat < 128) :
    String.utf8EncodeChar c = [UInt8.ofNat c.toNat] := by
  have hval : c.val.toNat ≤ 127 := Nat.le_of_lt_succ h
  unfold String.utf8EncodeChar
  simp only [hval, if_true]
  rfl

/-- Every byte of a character beyond ASCII has its highest bit set. -/
theorem le_of_mem_utf8EncodeChar {c : Char} (hc : 128 ≤ c.toNat) {b : UInt8}
    (hb : b ∈ String.utf8EncodeChar c) : 128 ≤ b.toNat := by
  have hlarge : 128 ≤ c.val.toNat := hc
  unfold String.utf8EncodeChar at hb
  generalize c.val.toNat = v at hb hlarge
  simp only at hb
  split_ifs at hb
  all_goals simp only [List.mem_cons, List.not_mem_nil, or_false] at hb
  · omega
  · rcases hb with rfl | rfl
    all_goals
      rw [UInt8.toNat_ofNat']
      omega
  · rcases hb with rfl | rfl | rfl
    all_goals
      rw [UInt8.toNat_ofNat']
      omega
  · rcases hb with rfl | rfl | rfl | rfl
    all_goals
      rw [UInt8.toNat_ofNat']
      omega

/-! ## The order -/

theorem cons_ofNat_lt {m n : Nat} {xs ys : List UInt8} (hn : n < 256)
    (h : m < n ∨ m = n ∧ xs < ys) : UInt8.ofNat m :: xs < UInt8.ofNat n :: ys := by
  rw [List.cons_lt_cons_iff]
  rcases h with hlt | ⟨rfl, hrest⟩
  · left
    rw [UInt8.lt_iff_toNat_lt, UInt8.toNat_ofNat', UInt8.toNat_ofNat']
    omega
  · exact .inr ⟨rfl, hrest⟩

/-- Whatever follows, a smaller character comes first. -/
theorem utf8EncodeChar_append_lt {c d : Char} (h : c < d) (xs ys : List UInt8) :
    String.utf8EncodeChar c ++ xs < String.utf8EncodeChar d ++ ys := by
  have hlt : c.val.toNat < d.val.toNat := h
  have hd : d.val.toNat < 0x110000 := by
    rcases d.valid with hsmall | ⟨-, hsmall⟩
    · exact Nat.lt_trans hsmall (by decide)
    · exact hsmall
  unfold String.utf8EncodeChar
  generalize c.val.toNat = v at hlt
  generalize d.val.toNat = w at hlt hd
  simp only
  split_ifs
  all_goals simp only [List.cons_append, List.nil_append]
  all_goals first | omega | refine cons_ofNat_lt (by omega) ?_
  -- Left are the characters of the same number of bytes, which agree in some bytes at the front.
  all_goals first | omega | skip
  · rcases Nat.lt_or_ge (v / 64) (w / 64) with h₁ | h₁
    · omega
    · refine .inr ⟨by omega, cons_ofNat_lt (by omega) (by omega)⟩
  · rcases Nat.lt_or_ge (v / 4096) (w / 4096) with h₂ | h₂
    · omega
    · refine .inr ⟨by omega, cons_ofNat_lt (by omega) ?_⟩
      rcases Nat.lt_or_ge (v / 64) (w / 64) with h₁ | h₁
      · omega
      · refine .inr ⟨by omega, cons_ofNat_lt (by omega) (by omega)⟩
  · rcases Nat.lt_or_ge (v / 262144) (w / 262144) with h₃ | h₃
    · omega
    · refine .inr ⟨by omega, cons_ofNat_lt (by omega) ?_⟩
      rcases Nat.lt_or_ge (v / 4096) (w / 4096) with h₂ | h₂
      · omega
      · refine .inr ⟨by omega, cons_ofNat_lt (by omega) ?_⟩
        rcases Nat.lt_or_ge (v / 64) (w / 64) with h₁ | h₁
        · omega
        · refine .inr ⟨by omega, cons_ofNat_lt (by omega) (by omega)⟩

theorem flatMap_utf8EncodeChar_lt {cs ds : List Char} (h : cs < ds) :
    cs.flatMap String.utf8EncodeChar < ds.flatMap String.utf8EncodeChar := by
  induction cs generalizing ds with
  | nil =>
    cases ds with
    | nil => exact absurd h (List.not_lt_nil _)
    | cons d ds =>
      rw [List.flatMap_nil, List.flatMap_cons]
      cases henc : String.utf8EncodeChar d with
      | nil => exact absurd henc String.utf8EncodeChar_ne_nil
      | cons x xs => exact List.nil_lt_cons _ _
  | cons c cs ih =>
    cases ds with
    | nil => exact absurd h (List.not_lt_nil _)
    | cons d ds =>
      rw [List.flatMap_cons, List.flatMap_cons]
      rcases List.cons_lt_cons_iff.mp h with hc | ⟨rfl, hcs⟩
      · exact utf8EncodeChar_append_lt hc _ _
      · exact List.append_left_lt (ih hcs)

/-- Comparing texts is comparing their bytes. -/
theorem bytes_lt_iff {s t : String} : bytes s < bytes t ↔ s < t := by
  rw [bytes_eq, bytes_eq]
  constructor
  · intro h
    rcases lt_trichotomy s t with hst | rfl | hts
    · exact hst
    · exact absurd h (List.lt_irrefl _)
    · exact absurd h (List.lt_asymm (flatMap_utf8EncodeChar_lt (String.lt_iff_toList_lt.mp hts)))
  · intro h
    exact flatMap_utf8EncodeChar_lt (String.lt_iff_toList_lt.mp h)

theorem bytes_injective {s t : String} (h : bytes s = bytes t) : s = t := by
  rcases lt_trichotomy s t with hlt | heq | hgt
  · exact absurd (bytes_lt_iff.mpr hlt) (h ▸ List.lt_irrefl _)
  · exact heq
  · exact absurd (bytes_lt_iff.mpr hgt) (h ▸ List.lt_irrefl _)

end NodeAtlas.Text
