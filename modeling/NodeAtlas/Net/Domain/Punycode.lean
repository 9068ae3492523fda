/-!
# Encoded letters in domain names

Letters outside ASCII are written by a list of digits, which tell where which letter is inserted
among the plain ones. The digits form numbers of variable length, one for each letter.
-/

namespace NodeAtlas.Net.Domain.Punycode

/-- The value of a digit: letters stand for 0 to 25 and digits for 26 to 35. -/
def digit? (c : Char) : Option Nat :=
  if 'a' ≤ c ∧ c ≤ 'z' then some (c.toNat - 'a'.toNat)
  else if '0' ≤ c ∧ c ≤ '9' then some (c.toNat - '0'.toNat + 26)
  else none

/-- A digit below the threshold, which is from 1 to 26, ends its number; `k` is its position. -/
def threshold (k bias : Nat) : Nat :=
  if k ≤ bias then 1 else min (k - bias) 26

/-- Divides `delta` by 35 until it is small; `k` counts the divisions. -/
def shrink (delta k : Nat) : Nat :=
  if 455 < delta then shrink (delta / 35) (k + 36) else k + 36 * delta / (delta + 38)
termination_by delta
decreasing_by exact Nat.div_lt_self (by omega) (by omega)

/-- The bias for the next number. -/
def adapt (delta points : Nat) (isFirst : Bool) : Nat :=
  let d := if isFirst then delta / 700 else delta / 2
  shrink (d + d / points) 0

/-- Reads one number: its value added to `i`, and the digits that follow. -/
def readNumber? (bias : Nat) : (i weight k : Nat) → List Char → Option (Nat × List Char)
  | _, _, _, [] => none
  | i, weight, k, c :: cs =>
    match digit? c with
    | none => none
    | some d =>
      let t := threshold k bias
      let i := i + d * weight
      if 0xffffffff < i then none
      else if d < t then some (i, cs)
      else readNumber? bias i (weight * (36 - t)) (k + 36) cs

/-- A number takes at least one digit. -/
theorem length_lt_of_readNumber? {bias i weight k : Nat} {cs : List Char} {r : Nat × List Char}
    (h : readNumber? bias i weight k cs = some r) : r.2.length < cs.length := by
  induction cs generalizing i weight k with
  | nil => simp [readNumber?] at h
  | cons c cs ih =>
    rw [readNumber?] at h
    split at h
    · cases h
    · dsimp only at h
      split at h
      · cases h
      · split at h
        · cases h
          simp
        · have := ih h
          simp only [List.length_cons]
          omega

/-- Inserts the letters that the digits describe into `out`. -/
def insertAll? (n i bias : Nat) (out : List Char) : List Char → Option (List Char)
  | [] => some out
  | c :: cs =>
    match _hr : readNumber? bias i 1 36 (c :: cs) with
    | none => none
    | some (j, rest) =>
      let points := out.length + 1
      let m := n + j / points
      let place := j % points
      if m.isValidChar then
        insertAll? m (place + 1) (adapt (j - i) points (i == 0))
          (out.insertIdx place (.ofNat m)) rest
      else none
termination_by cs => cs.length
decreasing_by exact length_lt_of_readNumber? _hr

/-- The plain letters before the last hyphen, and the digits after it. Without plain letters there
is no hyphen either, and all are digits. -/
def parts (cs : List Char) : List Char × List Char :=
  let digits := (cs.reverse.takeWhile (· ≠ '-')).reverse
  let plain := cs.take (cs.length - digits.length - 1)
  if plain.isEmpty then ([], cs) else (plain, digits)

/-- The letters that a text of plain letters and digits stands for. -/
def decode? (cs : List Char) : Option (List Char) :=
  let (plain, digits) := parts cs
  insertAll? 128 0 72 plain digits

end NodeAtlas.Net.Domain.Punycode
