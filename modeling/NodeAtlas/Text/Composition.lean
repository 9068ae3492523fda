import NodeAtlas.Text.CaseTable
import NodeAtlas.Text.CompositeTable
import NodeAtlas.Text.MarkTable

/-!
# Canonical composition

Letters with marks can be written in several ways: as one composite character or as a letter
followed by its marks, and marks that do not touch each other in any order. The composed form takes
composite characters apart, puts the marks in their canonical order, and makes composite characters
wherever possible. Characters that merely stand for others of the same look are left as they are.
-/

namespace NodeAtlas.Text

/-! ## Marks -/

/-- A combining mark. -/
def isMark (c : Char) : Bool := inRanges nonspacingMarkRanges c || inRanges spacingMarkRanges c

/-- The canonical combining class of a character, which is zero for all letters. -/
def combiningClass (c : Char) : Nat :=
  match markRuns.find? fun r => r.first ≤ c.toNat && c.toNat ≤ r.last with
  | some r => r.cls
  | none => 0

/-- Puts a character before others: a mark goes behind the marks that come next and have lower
classes. -/
def insertMark (c : Char) : List Char → List Char
  | [] => [c]
  | d :: ds =>
    if combiningClass d < combiningClass c ∧ combiningClass d ≠ 0 then d :: insertMark c ds
    else c :: d :: ds

/-- The characters with the marks at each letter in the order of their classes. Marks of the same
class stay in order. -/
def orderMarks (cs : List Char) : List Char := cs.foldr insertMark []

/-! ## Pairs -/

/-- The two characters of which a Korean syllable consists: a syllable without final consonant and
that consonant, or the first consonant and the vowel. -/
def syllableParts? (c : Char) : Option (Char × Char) :=
  let n := c.toNat - 0xAC00
  if c.toNat < 0xAC00 ∨ 0xD7A3 < c.toNat then none
  else if n % 28 ≠ 0 then some (.ofNat (c.toNat - n % 28), .ofNat (0x11A7 + n % 28))
  else some (.ofNat (0x1100 + n / 588), .ofNat (0x1161 + n % 588 / 28))

/-- The Korean syllable that two characters make. -/
def syllable? (a b : Char) : Option Char :=
  let x := a.toNat
  let y := b.toNat
  if 0x1100 ≤ x ∧ x ≤ 0x1112 ∧ 0x1161 ≤ y ∧ y ≤ 0x1175 then
    some (.ofNat (0xAC00 + ((x - 0x1100) * 21 + (y - 0x1161)) * 28))
  else if 0xAC00 ≤ x ∧ x ≤ 0xD7A3 ∧ (x - 0xAC00) % 28 = 0 ∧ 0x11A8 ≤ y ∧ y ≤ 0x11C2 then
    some (.ofNat (x + (y - 0x11A7)))
  else none

/-- The two characters of which a character consists. -/
def pairOf? (c : Char) : Option (Char × Char) :=
  match composites.find? (·.whole == c.toNat) with
  | some p => some (.ofNat p.base, .ofNat p.mark)
  | none => syllableParts? c

/-- The character that two others make. -/
def join? (a b : Char) : Option Char :=
  match composites.find? fun p => p.base == a.toNat && p.mark == b.toNat with
  | some p => some (.ofNat p.whole)
  | none => syllable? a b

/-! ## Composed form -/

/-- Takes a character apart; the first of two parts may have to be taken apart again. -/
def takeApart : (fuel : Nat) → Char → List Char
  | 0, c => [c]
  | fuel + 1, c =>
    match pairOf? c with
    | some (a, b) => takeApart fuel a ++ [b]
    | none => [c]

/-- The parts of a character. No character has more than four. -/
def partsOf (c : Char) : List Char := takeApart 3 c

/-- Joins the characters to the letter before them. A character that makes none with the letter
stays behind it and shields the letter from those that follow and are of no higher class. -/
def joinFrom (letter : Char) (between : List Char) : List Char → List Char
  | [] => letter :: between
  | c :: cs =>
    let isShielded := between.getLast?.any fun d => combiningClass c ≤ combiningClass d
    match if isShielded then none else join? letter c with
    | some whole => joinFrom whole between cs
    | none =>
      if combiningClass c = 0 then letter :: between ++ joinFrom c [] cs
      else joinFrom letter (between ++ [c]) cs

/-- Makes composite characters. Marks that come before all letters stay as they are. -/
def joinAll : List Char → List Char
  | [] => []
  | c :: cs => if combiningClass c = 0 then joinFrom c [] cs else c :: joinAll cs

/-- The composed form of a list of characters. -/
def composed (cs : List Char) : List Char := joinAll (orderMarks (cs.flatMap partsOf))

end NodeAtlas.Text
