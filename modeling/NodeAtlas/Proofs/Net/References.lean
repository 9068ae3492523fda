import Mathlib.Data.List.DropRight
import NodeAtlas.Net.Url.Basic

/-!
# References below an address

A reference that begins with a segment of letters and digits names a path below that of its base. No scheme
and no authority can be read from it, whatever comes behind that segment; so the address that it leads to
has the origin of the base, and only the path, the query and the fragment depend on the rest.
-/

namespace NodeAtlas.Net.Url

open NodeAtlas.Text

theorem code_of_isAlphanumeric {c : Char} (h : isAlphanumeric c = true) :
    48 ≤ c.toNat ∧ c.toNat ≤ 122 ∧ c.toNat ≠ 58 ∧ c.toNat ≠ 63 ∧ c.toNat ≠ 92 := by
  have hupper : c.isUpper = true ↔ c.val ≥ 'A'.val ∧ c.val ≤ 'Z'.val := decide_eq_true_iff
  have hlower : c.isLower = (decide (c.val ≥ 'a'.val) && decide (c.val ≤ 'z'.val)) := rfl
  have halpha : c.isAlpha = (c.isUpper || c.isLower) := rfl
  simp only [isAlphanumeric, halpha, hupper, hlower, isDigit, Char.le_def, Bool.or_eq_true,
    Bool.and_eq_true, decide_eq_true_eq, ge_iff_le, UInt32.le_iff_toNat_le] at h
  have hcode : c.toNat = c.val.toNat := rfl
  have ha : 'A'.val.toNat = 65 := rfl
  have hz : 'Z'.val.toNat = 90 := rfl
  have ha' : 'a'.val.toNat = 97 := rfl
  have hz' : 'z'.val.toNat = 122 := rfl
  have h0 : '0'.val.toNat = 48 := rfl
  have h9 : '9'.val.toNat = 57 := rfl
  omega

/-! ## Cleaning -/

/-- The character is dropped at the ends of a reference. -/
def isEdge (c : Char) : Bool := c.toNat ≤ 32

/-- The character is dropped everywhere in a reference. -/
def isGap (c : Char) : Bool := c == '\t' || c == '\n' || c == '\r'

theorem clean_eq (cs : List Char) :
    clean cs = ((cs.dropWhile isEdge).rdropWhile isEdge).filter fun c => !isGap c := by
  have hkept : (fun c : Char => decide (c ≠ '\t' ∧ c ≠ '\n' ∧ c ≠ '\r')) = fun c => !isGap c := by
    funext c
    rw [Bool.eq_iff_iff]
    simp [isGap, and_assoc]
  rw [← hkept]
  rfl

theorem rdropWhile_append_of_last {p : Char → Bool} {xs : List Char} {x : Char} (hx : p x = false)
    (ys : List Char) : (xs ++ x :: ys).rdropWhile p = xs ++ x :: ys.rdropWhile p := by
  induction ys using List.reverseRecOn with
  | nil =>
    rw [List.rdropWhile_concat_neg _ _ _ (by simp [hx])]
    rfl
  | append_singleton ys y ih =>
    rw [← List.cons_append, ← List.append_assoc]
    cases hy : p y with
    | true => rw [List.rdropWhile_concat_pos _ _ _ hy, List.rdropWhile_concat_pos _ _ _ hy, ih]
    | false =>
      rw [List.rdropWhile_concat_neg _ _ _ (by simp [hy]), List.rdropWhile_concat_neg _ _ _ (by simp [hy])]
      simp

theorem rdropWhile_cons_of_neg {p : Char → Bool} {x : Char} (hx : p x = false) (ys : List Char) :
    (x :: ys).rdropWhile p = x :: ys.rdropWhile p := by
  have hnil : ([] ++ x :: ys).rdropWhile p = [] ++ x :: ys.rdropWhile p :=
    rdropWhile_append_of_last hx ys
  exact hnil

/-! ## References that descend -/

/-- Letters and digits, at least one. -/
def IsWord (w : List Char) : Prop := w ≠ [] ∧ ∀ c ∈ w, isAlphanumeric c = true

instance (w : List Char) : Decidable (IsWord w) :=
  decidable_of_iff (w ≠ [] ∧ w.all isAlphanumeric = true) (by rw [IsWord, List.all_eq_true])

/-- The reference begins with a word. Nothing follows it, or a slash does. -/
def Descends (cs : List Char) : Prop :=
  ∃ lead rest, cs = lead ++ rest ∧ IsWord lead ∧ ∀ c ∈ rest.head?, c = '/'

theorem isEdge_of_isAlphanumeric {c : Char} (h : isAlphanumeric c = true) : isEdge c = false := by
  have hcode := code_of_isAlphanumeric h
  simp only [isEdge, decide_eq_false_iff_not]
  omega

theorem isGap_of_isEdge {c : Char} (h : isEdge c = false) : isGap c = false := by
  cases hgap : isGap c with
  | false => rfl
  | true =>
    simp only [isGap, Bool.or_eq_true, beq_iff_eq] at hgap
    rcases hgap with (rfl | rfl) | rfl <;> revert h <;> decide

theorem filter_word {w : List Char} (h : IsWord w) : w.filter (fun c => !isGap c) = w := by
  rw [List.filter_eq_self]
  intro c hc
  rw [isGap_of_isEdge (isEdge_of_isAlphanumeric (h.2 c hc))]
  rfl

/-- What is cleaned away is behind the first segment. -/
theorem clean_append {lead rest : List Char} (hlead : IsWord lead) (hrest : ∀ c ∈ rest.head?, c = '/') :
    clean (lead ++ rest) = lead ++ (rest.rdropWhile isEdge).filter fun c => !isGap c := by
  obtain ⟨c, lead', rfl⟩ := List.exists_cons_of_ne_nil hlead.1
  have hfirst : isEdge c = false := isEdge_of_isAlphanumeric (hlead.2 c List.mem_cons_self)
  have hfront : (c :: lead' ++ rest).dropWhile isEdge = c :: lead' ++ rest :=
    List.dropWhile_cons_of_neg (by simp [hfirst])
  have hend : (c :: lead' ++ rest).rdropWhile isEdge = c :: lead' ++ rest.rdropWhile isEdge := by
    cases rest with
    | nil =>
      rw [List.append_nil, List.rdropWhile_eq_self_iff.mpr, List.rdropWhile_nil, List.append_nil]
      intro hne
      have hlast := hlead.2 _ (List.getLast_mem hne)
      simp [isEdge_of_isAlphanumeric hlast]
    | cons d rest =>
      obtain rfl : d = '/' := hrest d rfl
      have hslash : isEdge '/' = false := rfl
      rw [rdropWhile_append_of_last hslash, rdropWhile_cons_of_neg hslash]
  rw [clean_eq, hfront, hend, List.filter_append, filter_word hlead]

theorem head?_filter_rdropWhile {rest : List Char} (hrest : ∀ c ∈ rest.head?, c = '/') :
    ∀ c ∈ ((rest.rdropWhile isEdge).filter fun c => !isGap c).head?, c = '/' := by
  cases rest with
  | nil => simp
  | cons d rest =>
    obtain rfl : d = '/' := hrest d rfl
    have hslash : isEdge '/' = false := rfl
    rw [rdropWhile_cons_of_neg hslash, List.filter_cons_of_pos (by decide)]
    simp

/-- A reference that descends still does so when it is clean. -/
theorem Descends.clean {cs : List Char} (h : Descends cs) : Descends (clean cs) := by
  obtain ⟨lead, rest, rfl, hlead, hrest⟩ := h
  exact ⟨lead, _, clean_append hlead hrest, hlead, head?_filter_rdropWhile hrest⟩

section Descends

variable {cs : List Char}

/-- No scheme stands before a slash. -/
theorem schemePart?_of_descends (h : Descends cs) : schemePart? cs = none := by
  obtain ⟨lead, rest, rfl, hlead, hrest⟩ := h
  have hname : (lead ++ rest).takeWhile (fun c => isAlphanumeric c || c == '+' || c == '-' || c == '.') =
      lead := by
    rw [List.takeWhile_append_of_pos (fun c hc => by simp [hlead.2 c hc])]
    cases rest with
    | nil => simp
    | cons d rest =>
      obtain rfl : d = '/' := hrest d rfl
      rw [List.takeWhile_cons_of_neg (by decide), List.append_nil]
  unfold schemePart?
  simp only [hname, List.drop_left]
  cases rest with
  | nil => split <;> simp_all
  | cons d rest =>
    obtain rfl : d = '/' := hrest d rfl
    split <;> simp_all

theorem exists_cons_of_descends (h : Descends cs) :
    ∃ c cs', cs = c :: cs' ∧ isAlphanumeric c = true := by
  obtain ⟨lead, rest, rfl, hlead, -⟩ := h
  obtain ⟨c, lead', rfl⟩ := List.exists_cons_of_ne_nil hlead.1
  exact ⟨c, lead' ++ rest, rfl, hlead.2 c List.mem_cons_self⟩

theorem isSlash_of_isAlphanumeric {c : Char} (h : isAlphanumeric c = true) : isSlash c = false := by
  have hcode := code_of_isAlphanumeric h
  cases hslash : isSlash c with
  | false => rfl
  | true =>
    simp only [isSlash, Bool.or_eq_true, beq_iff_eq] at hslash
    rcases hslash with rfl | rfl
    · exact absurd hcode.1 (by decide)
    · exact absurd rfl hcode.2.2.2.2

/-- The address below a base that a clean reference leads to. -/
def below (base : Url) (cs : List Char) : Url :=
  ⟨base.origin, walk base.path.dropLast (pathPieces (Tail.ofChars cs).path),
    (Tail.ofChars cs).encodedQuery, (Tail.ofChars cs).encodedFragment⟩

/-- The path of a reference begins where the reference does. -/
theorem path_ofChars_cons {c : Char} (hc : isAlphanumeric c = true) (cs : List Char) :
    (Tail.ofChars (c :: cs)).path = c :: (Tail.ofChars cs).path := by
  have hcode := code_of_isAlphanumeric hc
  have hsign : c ≠ '#' := by
    rintro rfl
    exact absurd hcode.1 (by decide)
  have hmark : c ≠ '?' := by
    rintro rfl
    exact hcode.2.2.2.1 rfl
  simp [Tail.ofChars, List.takeWhile_cons_of_pos, hsign, hmark]

theorem relative_of_descends (base : Url) (h : Descends cs) : relative base cs = .ok (below base cs) := by
  obtain ⟨c, cs', rfl, hc⟩ := exists_cons_of_descends h
  have hslash := isSlash_of_isAlphanumeric hc
  have hgo : relative.go base (c :: cs') = .ok (below base (c :: cs')) := by
    unfold relative.go below
    dsimp only
    rw [path_ofChars_cons hc]
    simp [hslash]
  cases cs' with
  | nil => exact hgo
  | cons d cs' =>
    unfold relative
    simp only [hslash, Bool.false_and, Bool.false_eq_true, if_false]
    exact hgo

end Descends

/-- A reference that descends leads to an address below the base. -/
theorem join_of_descends (base : Url) {reference : String} (h : Descends reference.toList) :
    base.join reference = .ok (below base (clean reference.toList)) := by
  have hclean := h.clean
  unfold join
  simp only [schemePart?_of_descends hclean]
  exact relative_of_descends base hclean

end NodeAtlas.Net.Url
