import NodeAtlas.Net.Url.Host
import NodeAtlas.Proofs.Net.References
import NodeAtlas.Proofs.Text.Ascii

/-!
# Names as hosts

A text of letters, digits, hyphens and dots is read as the host of a URL in lower case. It is refused only if
a label that begins with `xn--` does not stand for letters, and it is taken for an address only if its last
label is a number.
-/

namespace NodeAtlas.Net

open NodeAtlas.Text

/-- The characters of host names. -/
def isNameChar (c : Char) : Bool := isAlphanumeric c || c == '-' || c == '.'

theorem lt_of_isNameChar {c : Char} (h : isNameChar c = true) : c.toNat < 128 := by
  simp only [isNameChar, Bool.or_eq_true, beq_iff_eq] at h
  rcases h with (h | rfl) | rfl
  · have hcode := Url.code_of_isAlphanumeric h
    omega
  · decide
  · decide

theorem toLower_of_isNameChar {c : Char} (h : isNameChar c = true) :
    isNameChar c.toLower = true ∧ Url.isForbidden c.toLower = false := by
  refine of_ascii (P := fun c => isNameChar c = true →
    isNameChar c.toLower = true ∧ Url.isForbidden c.toLower = false) ?_ (lt_of_isNameChar h) h
  decide +kernel

/-! ## Labels -/

namespace Domain

theorem inRanges_of_lt {ranges : List (Nat × Nat)} {c : Char}
    (h : (ranges.all fun r => 128 ≤ r.1) = true) (hc : c.toNat < 128) : inRanges ranges c = false := by
  rw [inRanges, List.any_eq_false]
  intro r hr
  have hfirst := List.all_eq_true.mp h r hr
  simp only [decide_eq_true_eq] at hfirst
  simp only [Bool.and_eq_true, decide_eq_true_eq, not_and]
  omega

theorem directionOf_of_ascii {c : Char} (hc : c.toNat < 128) :
    directionOf c ≠ .right ∧ directionOf c ≠ .arabicNumber := by
  have hright : inRanges rightRanges c = false := inRanges_of_lt (by decide) hc
  have harabic : inRanges arabicNumberRanges c = false := inRanges_of_lt (by decide) hc
  unfold directionOf
  rw [hright, harabic]
  constructor <;> simp only [Bool.false_eq_true, if_false] <;> split_ifs <;> simp

theorem runsRight_of_ascii {label : List Char} (h : ∀ c ∈ label, c.toNat < 128) :
    runsRight label = false := by
  rw [runsRight, List.any_eq_false]
  intro c hc
  have hdirection := directionOf_of_ascii (h c hc)
  simp [hdirection.1, hdirection.2]

/-- A label that does not begin with `xn--` stands for itself. -/
theorem letters?_of_plain {label : List Char} (h : ¬ "xn--".toList <+: label) :
    letters? label = some label := by
  unfold letters?
  split
  · rename_i rest hrest
    exact absurd ⟨rest, (stripLead?_eq_some.mp hrest).symm⟩ h
  · rfl

/-- Labels that stand for themselves form a name. -/
theorem isName_of_plain {labels : List (List Char)} (hascii : ∀ l ∈ labels, ∀ c ∈ l, c.toNat < 128)
    (hplain : ∀ l ∈ labels, ¬ "xn--".toList <+: l) : isName labels = true := by
  have hletters : labels.mapM letters? = some labels := by
    induction labels with
    | nil => rfl
    | cons l ls ih =>
      have hrest := ih (fun l' hl' => hascii l' (List.mem_cons_of_mem _ hl'))
        (fun l' hl' => hplain l' (List.mem_cons_of_mem _ hl'))
      rw [List.mapM_cons, letters?_of_plain (hplain l List.mem_cons_self), hrest]
      rfl
  have hleft : labels.any runsRight = false := by
    rw [List.any_eq_false]
    intro l hl
    rw [runsRight_of_ascii (hascii l hl)]
    exact Bool.false_ne_true
  unfold isName
  simp only [hletters, hleft]
  rfl

end Domain

/-! ## Hosts -/

/-- The label is written like a number: in decimal digits, or in hexadecimal ones behind `0x`. -/
def IsNumeral (label : List Char) : Prop :=
  (∀ c ∈ label, isDigit c = true) ∨
    ∃ ds, (label = '0' :: 'x' :: ds ∨ label = '0' :: 'X' :: ds) ∧ ∀ c ∈ ds, (digit? 16 c).isSome

theorem not_isNumeral {c : Char} (hc : isDigit c = false) (cs : List Char) : ¬ IsNumeral (c :: cs) := by
  rintro (hdigits | ⟨ds, hlead | hlead, -⟩)
  · simp [hdigits c List.mem_cons_self] at hc
  · cases hlead
    cases hc
  · cases hlead
    cases hc

namespace Url

section Numbers

variable {cs l : List Char} {ls : List (List Char)}

theorem forall_of_readPart? {radix : Nat} {ds : List Char} (h : (readPart? radix ds).isSome) :
    ∀ c ∈ ds, (digit? radix c).isSome := by
  unfold readPart? at h
  split at h
  · rename_i hall
    exact List.all_eq_true.mp hall
  · cases h

theorem forall_isDigit {radix : Nat} (hradix : radix ≤ 10) (h : ∀ c ∈ l, (digit? radix c).isSome) :
    ∀ c ∈ l, isDigit c = true := by
  intro c hc
  obtain ⟨d, hd⟩ := Option.isSome_iff_exists.mp (h c hc)
  exact isDigit_of_digit? hradix hd

theorem isNumeral_of_parse? (h : (Part.parse? l).isSome) : IsNumeral l := by
  unfold Part.parse? at h
  split at h
  · cases h
  · rename_i ds
    exact .inr ⟨ds, .inl rfl, forall_of_readPart? h⟩
  · rename_i ds
    exact .inr ⟨ds, .inr rfl, forall_of_readPart? h⟩
  · rename_i d ds
    have hds := forall_isDigit (by decide) (forall_of_readPart? h)
    refine .inl fun c hc => ?_
    rcases List.mem_cons.mp hc with rfl | hc
    · rfl
    · exact hds c hc
  · exact .inl (forall_isDigit (by decide) (forall_of_readPart? h))

theorem isSome_readPart? {radix : Nat} {ds : List Char} (h : ∀ c ∈ ds, (digit? radix c).isSome) :
    (readPart? radix ds).isSome := by
  rw [readPart?, if_pos (List.all_eq_true.mpr h)]
  split <;> rfl

/-- The last label counts unless it is empty. -/
theorem hostLabels_of_pieces (h : pieces '.' cs = ls ++ [l]) (hl : l ≠ []) : hostLabels cs = ls ++ [l] := by
  obtain ⟨x, l, rfl⟩ := List.exists_cons_of_ne_nil hl
  simp [hostLabels, h]

theorem endsInNumber_iff (h : pieces '.' cs = ls ++ [l]) (hl : l ≠ []) :
    endsInNumber cs = true ↔ IsNumeral l := by
  have hends : endsInNumber cs = (l.all isDigit || (Part.parse? l).isSome) := by
    rw [endsInNumber, hostLabels_of_pieces h hl, List.getLast?_concat]
    cases l with
    | nil => exact absurd rfl hl
    | cons x l => rfl
  rw [hends, Bool.or_eq_true, List.all_eq_true]
  constructor
  · rintro (hdigits | hparse)
    · exact .inl hdigits
    · exact isNumeral_of_parse? hparse
  · rintro (hdigits | ⟨ds, rfl | rfl, hds⟩)
    · exact .inl hdigits
    · exact .inr (isSome_readPart? hds)
    · exact .inr (isSome_readPart? hds)

end Numbers

section Hosts

variable {s : String}

/-- How the host is read: the labels have to form a name, and a number at the end makes it an address. -/
theorem parse_of_isNameChar (hne : s ≠ "") (h : ∀ c ∈ s.toList, isNameChar c = true) :
    Host.parse s =
      if Domain.isName (pieces '.' (asciiLower s).toList) then
        if endsInNumber (asciiLower s).toList then
          match (partNumbers? (hostLabels (asciiLower s).toList)).bind ipv4OfParts? with
          | some ip => .ok (.v4 ip)
          | none => .error .invalidIpv4
        else .ok (.domain (asciiLower s))
      else .error .invalidInternationalName := by
  have hlower : (asciiLower s).toList = s.toList.map Char.toLower := String.toList_ofList
  have hallowed : (s.toList.map Char.toLower).any isForbidden = false := by
    rw [List.any_map, List.any_eq_false]
    intro c hc
    simp [(toLower_of_isNameChar (h c hc)).2]
  rw [hlower]
  unfold Host.parse
  split
  · rename_i hnil
    exact absurd (String.toList_eq_nil_iff.mp hnil) hne
  · rename_i cs hbracket
    exact absurd (h '[' (by simp [hbracket])) (by decide)
  · simp only [hallowed]
    cases Domain.isName (pieces '.' (s.toList.map Char.toLower)) <;> rfl

end Hosts

end Url

end NodeAtlas.Net
