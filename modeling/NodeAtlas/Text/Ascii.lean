/-!
# Letters of the ASCII range

Case operations that touch the 52 ASCII letters only, for names whose comparison ignores their case.
-/

namespace NodeAtlas.Text

/-- Lower-cases the ASCII letters and keeps every other character. -/
def asciiLower (s : String) : String :=
  String.ofList (s.toList.map Char.toLower)

/-- Equality up to the case of ASCII letters. -/
def sameIgnoringCase (a b : String) : Bool :=
  a.toList.map Char.toLower == b.toList.map Char.toLower

/-- Drops `lead` from the front of a list of characters, if it is there. -/
def stripLead? : (lead cs : List Char) → Option (List Char)
  | [], cs => some cs
  | _ :: _, [] => none
  | l :: lead, c :: cs => if l = c then stripLead? lead cs else none

/-- Drops `lead` from the front of a text, if it is there. -/
def dropLead? (lead s : String) : Option String :=
  (stripLead? lead.toList s.toList).map String.ofList

/-- The digit that `c` stands for in the given radix (at most 16). -/
def digit? (radix : Nat) (c : Char) : Option Nat :=
  let v :=
    if '0' ≤ c ∧ c ≤ '9' then some (c.toNat - '0'.toNat)
    else if 'a' ≤ c ∧ c ≤ 'f' then some (c.toNat - 'a'.toNat + 10)
    else if 'A' ≤ c ∧ c ≤ 'F' then some (c.toNat - 'A'.toNat + 10)
    else none
  v.filter (· < radix)

/-- The ASCII digits. -/
def isDigit (c : Char) : Bool := '0' ≤ c && c ≤ '9'

/-- The ASCII letters and digits. -/
def isAlphanumeric (c : Char) : Bool := c.isAlpha || isDigit c

theorem stripLead?_eq_some {lead cs rest : List Char} :
    stripLead? lead cs = some rest ↔ cs = lead ++ rest := by
  induction lead generalizing cs with
  | nil => simp [stripLead?]
  | cons l lead ih =>
    cases cs with
    | nil => simp [stripLead?]
    | cons c cs =>
      by_cases h : l = c
      · subst h
        simp [stripLead?, ih]
      · simp [stripLead?, h, Ne.symm h]

theorem dropLead?_eq_some {lead s rest : String} :
    dropLead? lead s = some rest ↔ s = lead ++ rest := by
  unfold dropLead?
  rw [Option.map_eq_some_iff]
  constructor
  · rintro ⟨cs, hcs, rfl⟩
    rw [← String.toList_inj, String.toList_append, String.toList_ofList]
    exact stripLead?_eq_some.mp hcs
  · rintro rfl
    exact ⟨rest.toList, stripLead?_eq_some.mpr String.toList_append, String.ofList_toList⟩

end NodeAtlas.Text
