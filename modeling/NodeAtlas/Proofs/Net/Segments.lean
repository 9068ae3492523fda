import NodeAtlas.Proofs.Net.References
import NodeAtlas.Proofs.Text.Ascii
import NodeAtlas.Proofs.Text.Bytes

/-!
# Identifiers as segments

An identifier is written as one segment of a path when every character that means something in an address
is percent-encoded. Its bytes can be read back, so different identifiers are different segments. A walk
through the pieces of a path takes a word as the segment that it is.
-/

namespace NodeAtlas.Net.Url

open NodeAtlas.Text

/-- The characters to encode in an identifier that is to be one segment. -/
def escapesInSegment (c : Char) : Bool :=
  escapesInPath c || "/\\%".toList.contains c

/-- An identifier as one segment of a path. -/
def segment (id : String) : String :=
  String.ofList (percentEncode escapesInSegment id.toList)

/-- The bytes for which the characters of a segment stand. -/
def segmentBytes : List Char → List UInt8
  | '%' :: a :: b :: cs =>
    UInt8.ofNat (16 * (digit? 16 a).getD 0 + (digit? 16 b).getD 0) :: segmentBytes cs
  | c :: cs => UInt8.ofNat c.toNat :: segmentBytes cs
  | [] => []

/-! ## Reading a segment back -/

theorem getD_digit?_percentByte {n : Nat} (h : n < 16) :
    (digit? 16 (Char.ofNat (if n < 10 then '0'.toNat + n else 'A'.toNat + (n - 10)))).getD 0 = n := by
  revert n
  decide

theorem segmentBytes_percentByte_append (b : UInt8) (cs : List Char) :
    segmentBytes (percentByte b ++ cs) = b :: segmentBytes cs := by
  have hb : b.toNat < 256 := b.toNat_lt
  have hhigh : b.toNat / 16 < 16 := by omega
  have hlow : b.toNat % 16 < 16 := by omega
  simp only [percentByte, List.cons_append, List.nil_append, segmentBytes,
    getD_digit?_percentByte hhigh, getD_digit?_percentByte hlow]
  rw [Nat.div_add_mod, UInt8.ofNat_toNat]

theorem segmentBytes_percentChar_append (c : Char) (cs : List Char) :
    segmentBytes (percentChar c ++ cs) = String.utf8EncodeChar c ++ segmentBytes cs := by
  unfold percentChar
  induction String.utf8EncodeChar c with
  | nil => rfl
  | cons b bs ih =>
    rw [List.flatMap_cons, List.append_assoc, segmentBytes_percentByte_append, ih, List.cons_append]

theorem ne_percent_of_escapesInSegment {c : Char} (h : escapesInSegment c = false) : c ≠ '%' := by
  rintro rfl
  exact absurd h (by decide)

theorem lt_of_escapesInSegment {c : Char} (h : escapesInSegment c = false) : c.toNat < 128 := by
  simp only [escapesInSegment, escapesInPath, escapesInFragment, escapesAlways, Bool.or_eq_false_iff,
    decide_eq_false_iff_not] at h
  omega

theorem segmentBytes_percentEncode (cs : List Char) :
    segmentBytes (percentEncode escapesInSegment cs) = cs.flatMap String.utf8EncodeChar := by
  induction cs with
  | nil => rfl
  | cons c cs ih =>
    unfold percentEncode at ih ⊢
    rw [List.flatMap_cons, List.flatMap_cons]
    cases hc : escapesInSegment c with
    | true => rw [if_pos rfl, segmentBytes_percentChar_append, ih]
    | false =>
      have hplain := ne_percent_of_escapesInSegment hc
      have hsmall := lt_of_escapesInSegment hc
      rw [if_neg (by simp), utf8EncodeChar_of_lt hsmall, List.singleton_append, List.singleton_append,
        ← ih]
      cases hrest : List.flatMap _ cs <;> simp_all [segmentBytes]

/-- A segment holds the bytes of its identifier. -/
theorem segmentBytes_segment (id : String) : segmentBytes (segment id).toList = bytes id := by
  rw [segment, String.toList_ofList, segmentBytes_percentEncode, bytes_eq]

/-- Different identifiers are different segments. -/
theorem segment_injective {id id' : String} (h : segment id = segment id') : id = id' := by
  have hbytes : bytes id = bytes id' := by
    rw [← segmentBytes_segment, ← segmentBytes_segment, h]
  exact bytes_injective hbytes

/-! ## Words -/

theorem plain_of_isAlphanumeric {c : Char} (h : isAlphanumeric c = true) :
    escapesInPath c = false ∧ c ≠ '.' ∧ c ≠ '%' ∧ c ≠ '?' ∧ c ≠ '#' := by
  have hcode := code_of_isAlphanumeric h
  refine of_ascii (P := fun c => isAlphanumeric c = true →
    escapesInPath c = false ∧ c ≠ '.' ∧ c ≠ '%' ∧ c ≠ '?' ∧ c ≠ '#') ?_ (by omega) h
  decide +kernel

/-! ## Walks -/

section Walks

variable {done : List String} {p w : List Char}

theorem dotForm_of_ne_percent (h : ∀ c ∈ p, c ≠ '%') : dotForm p = p := by
  fun_induction dotForm p with
  | case1 cs ih => exact absurd rfl (h '%' (by simp))
  | case2 cs ih => exact absurd rfl (h '%' (by simp))
  | case3 c cs _ _ ih => rw [ih fun d hd => h d (List.mem_cons_of_mem _ hd)]
  | case4 => rfl

/-- A piece that is no dot form is a segment of its own. -/
theorem walk_cons (hdot : dotForm p ≠ ['.']) (hdots : dotForm p ≠ ['.', '.']) (ps : List (List Char)) :
    walk done (p :: ps) = walk (done ++ [String.ofList (percentEncode escapesInPath p)]) ps := by
  cases ps with
  | nil => simp [walk, hdot, hdots]
  | cons q ps => simp [walk, hdot, hdots]

theorem percentEncode_eq_self {escape : Char → Bool} (h : ∀ c ∈ p, escape c = false) :
    percentEncode escape p = p := by
  unfold percentEncode
  induction p with
  | nil => rfl
  | cons c cs ih =>
    rw [List.flatMap_cons, ih fun d hd => h d (List.mem_cons_of_mem _ hd), h c List.mem_cons_self]
    rfl

theorem walk_word (hw : IsWord w) (ps : List (List Char)) :
    walk done (w :: ps) = walk (done ++ [String.ofList w]) ps := by
  obtain ⟨hne, halnum⟩ := hw
  have hplain : ∀ c ∈ w, escapesInPath c = false ∧ c ≠ '.' ∧ c ≠ '%' ∧ c ≠ '?' ∧ c ≠ '#' :=
    fun c hc => plain_of_isAlphanumeric (halnum c hc)
  have hform : dotForm w = w := dotForm_of_ne_percent fun c hc => (hplain c hc).2.2.1
  have hdot : ∀ v, w ≠ '.' :: v := by
    rintro v rfl
    exact (hplain '.' List.mem_cons_self).2.1 rfl
  rw [walk_cons (by rw [hform]; exact hdot _) (by rw [hform]; exact hdot _),
    percentEncode_eq_self fun c hc => (hplain c hc).1]

theorem pathPieces_ne_nil (cs : List Char) : pathPieces cs ≠ [] := by
  cases cs with
  | nil => simp [pathPieces]
  | cons c cs =>
    simp only [pathPieces]
    split
    · simp
    · split <;> simp

theorem pathPieces_append_slash (h : ∀ c ∈ p, isSlash c = false) (cs : List Char) :
    pathPieces (p ++ '/' :: cs) = p :: pathPieces cs := by
  induction p with
  | nil => simp [pathPieces, isSlash]
  | cons c p ih =>
    have hc : isSlash c = false := h c List.mem_cons_self
    rw [List.cons_append, pathPieces, ih fun d hd => h d (List.mem_cons_of_mem _ hd)]
    simp [hc]

theorem pathPieces_of_ne_slash (h : ∀ c ∈ p, isSlash c = false) : pathPieces p = [p] := by
  induction p with
  | nil => rfl
  | cons c p ih =>
    have hc : isSlash c = false := h c List.mem_cons_self
    rw [pathPieces, ih fun d hd => h d (List.mem_cons_of_mem _ hd)]
    simp [hc]

end Walks

end NodeAtlas.Net.Url
