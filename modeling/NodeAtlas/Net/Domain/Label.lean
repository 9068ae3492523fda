import NodeAtlas.Net.Domain.Direction
import NodeAtlas.Net.Domain.Joiner
import NodeAtlas.Net.Domain.LetterTable
import NodeAtlas.Net.Domain.Punycode
import NodeAtlas.Text.Ascii

/-!
# Labels of domain names

A label that begins with `xn--` stands for letters outside ASCII. It is sound if its letters are
those that another reader would find as well: they are letters of domain names in their composed
form, and marks and joiners stand where they have an effect.
-/

namespace NodeAtlas.Net.Domain

open NodeAtlas.Text

/-- A character that may stand in a domain name. -/
def isLetter (c : Char) : Bool :=
  c.toNat < 128 || inRanges basicLetterRanges c || inRanges highLetterRanges c

/-- The letters of a label form a name of their own. -/
def isSound (letters : List Char) : Bool :=
  letters.all isLetter && !letters.head?.any isMark && composed letters == letters &&
    joinersFit [] letters

/-- The sound letters that an encoded text stands for. It does not end in a hyphen, as plain letters
alone need not be encoded. -/
def encodedLetters? (cs : List Char) : Option (List Char) :=
  if cs.isEmpty || cs.getLast? = some '-' then none
  else (Punycode.decode? cs).filter isSound

/-- The letters that a label in lower case stands for. -/
def letters? (label : List Char) : Option (List Char) :=
  match stripLead? "xn--".toList label with
  | some rest => encodedLetters? rest
  | none => some label

/-- The labels form a name: each stands for letters, and if some run from right to left, all have
one direction. -/
def isName (labels : List (List Char)) : Bool :=
  match labels.mapM letters? with
  | some names => !names.any runsRight || names.all hasOneDirection
  | none => false

end NodeAtlas.Net.Domain
