import NodeAtlas.Text.CaseTable

/-!
# Lower-casing

Full Unicode lower-casing of a text. All characters are mapped on their own but one: a capital sigma
becomes the final form `ς` at the end of a word and `σ` elsewhere. The capital I with a dot is the
only character whose image has two characters.
-/

namespace NodeAtlas.Text

/-- The image of a code point that lies in the run. -/
def CaseRun.image? (r : CaseRun) (n : Nat) : Option Nat :=
  if r.first ≤ n ∧ n ≤ r.last ∧ (n - r.first) % r.step = 0 then some (r.image + (n - r.first))
  else none

/-- The one-to-one lower-case image, which is the character itself outside the table. -/
def lowerOne (c : Char) : Char :=
  match lowerRuns.findSome? fun r => r.image? c.toNat with
  | some n => Char.ofNat n
  | none => c

/-- Skipping the characters that case ignores, the next one exists and is cased. -/
def meetsCased (cs : List Char) : Bool :=
  match cs.dropWhile (inRanges caseIgnorableRanges) with
  | [] => false
  | c :: _ => inRanges casedRanges c

/-- A capital sigma is final when a cased character comes before it and none after it. The
characters before it are given nearest first. -/
def isFinalSigma (before after : List Char) : Bool :=
  meetsCased before && !meetsCased after

/-- The lower-case image of `c` between its neighbours. -/
def lowerIn (before : List Char) (c : Char) (after : List Char) : List Char :=
  if c = 'Σ' then [if isFinalSigma before after then 'ς' else 'σ']
  else if c = 'İ' then ['i', '\u0307']
  else [lowerOne c]

/-- Lower-cases the characters, given those that came before them, nearest first. -/
def lowerFrom (before : List Char) : List Char → List Char
  | [] => []
  | c :: after => lowerIn before c after ++ lowerFrom (c :: before) after

/-- The text in lower case. -/
def lowerCase (s : String) : String :=
  String.ofList (lowerFrom [] s.toList)

end NodeAtlas.Text
