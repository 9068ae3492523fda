import NodeAtlas.Net.Domain.DirectionTable
import NodeAtlas.Text.Blank
import NodeAtlas.Text.MarkTable
import NodeAtlas.Text.CaseTable

/-!
# Directions of writing in domain names

A name with letters that are written from right to left could be shown in a misleading order. Such a
name is refused unless each of its labels can be told to run in one direction.
-/

namespace NodeAtlas.Net.Domain

open NodeAtlas.Text

/-- The direction in which a character is written. -/
inductive Direction where
  /-- From left to right. -/
  | left
  /-- From right to left. -/
  | right
  /-- As part of an Arabic number. -/
  | arabicNumber
  /-- As part of a European number. -/
  | europeanNumber
  /-- As the neighbours. -/
  | neutral
  /-- With the character before it. -/
  | mark
  deriving DecidableEq, Repr

/-- Marks that take no room and are written from left to right all the same. -/
def isLeftMark (c : Char) : Bool := [0xCBF, 0xCC6, 0x11A07, 0x11A08, 0x11C3F].contains c.toNat

/-- The direction of a character of a domain name. -/
def directionOf (c : Char) : Direction :=
  if inRanges rightRanges c then .right
  else if inRanges arabicNumberRanges c then .arabicNumber
  else if inRanges europeanNumberRanges c then .europeanNumber
  else if inRanges neutralRanges c then .neutral
  else if inRanges nonspacingMarkRanges c && !isLeftMark c then .mark
  else .left

/-- The label holds letters or numbers that are written from right to left. -/
def runsRight (label : List Char) : Bool :=
  label.any fun c => directionOf c = .right || directionOf c = .arabicNumber

/-- The label runs in one direction. Its first character is a letter and tells which: then no letter
of the other direction follows, and the last character, marks apart, is a letter or a digit. In a
label from right to left the two kinds of numbers do not meet. -/
def hasOneDirection : List Char → Bool
  | [] => true
  | c :: cs =>
    let ds := (dropEndWhile (directionOf · = .mark) cs).map directionOf
    match directionOf c with
    | .left =>
      ds.all (fun d => d ≠ .right && d ≠ .arabicNumber) &&
        ds.getLast?.all fun d => d = .left || d = .europeanNumber
    | .right =>
      ds.all (· ≠ .left) && ds.getLast?.all (· ≠ .neutral) &&
        !(ds.contains .europeanNumber && ds.contains .arabicNumber)
    | _ => false

end NodeAtlas.Net.Domain
