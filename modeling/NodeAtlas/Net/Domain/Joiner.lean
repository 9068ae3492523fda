import NodeAtlas.Net.Domain.JoiningTable
import NodeAtlas.Text.Composition

/-!
# Joiners in domain names

Two invisible characters tell whether letters are joined. They may stand only where they change what
is seen: behind the mark that takes the vowel from a letter, or, to keep letters apart, between
letters that would be joined.
-/

namespace NodeAtlas.Net.Domain

open NodeAtlas.Text

/-- The character that joins its neighbours. -/
def joiner : Char := '\u200d'

/-- The character that keeps its neighbours apart. -/
def separator : Char := '\u200c'

/-- A mark that takes the vowel from the letter before it. -/
def isVowelKiller (c : Char) : Bool := combiningClass c = 9

/-- A character that does not keep its neighbours from joining each other. -/
def isTransparent (c : Char) : Bool := inRanges nonspacingMarkRanges c || c.toNat == 0x1E94B

/-- Past transparent characters, the list begins with a letter in the ranges or with one that joins
on both sides. -/
def meetsJoining (ranges : List (Nat × Nat)) (cs : List Char) : Bool :=
  match cs.dropWhile isTransparent with
  | [] => false
  | c :: _ => inRanges ranges c || inRanges dualJoiningRanges c

/-- The joiner or separator may stand between the given characters; those before it are given
nearest first. -/
def joinerFits (c : Char) (before after : List Char) : Bool :=
  before.head?.any isVowelKiller ||
    (c == separator && meetsJoining leftJoiningRanges before &&
      meetsJoining rightJoiningRanges after)

/-- All joiners and separators may stand where they do. The characters already passed are given
nearest first. -/
def joinersFit (before : List Char) : List Char → Bool
  | [] => true
  | c :: after =>
    ((c != joiner && c != separator) || joinerFits c before after) && joinersFit (c :: before) after

end NodeAtlas.Net.Domain
