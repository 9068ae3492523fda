/-!
# Blank characters

A character is blank when it has the Unicode property White_Space. Trimming removes the blank
characters at both ends of a text and nothing else.
-/

namespace NodeAtlas.Text

/-- The 25 characters with the property White_Space. -/
def isBlank (c : Char) : Bool :=
  let n := c.toNat
  (9 ≤ n && n ≤ 13) || n == 32 || n == 0x85 || n == 0xA0 || n == 0x1680 ||
    (0x2000 ≤ n && n ≤ 0x200A) || n == 0x2028 || n == 0x2029 || n == 0x202F || n == 0x205F ||
    n == 0x3000

/-- The control characters: code points below 32 and from 127 to 159. -/
def isControl (c : Char) : Bool :=
  let n := c.toNat
  n < 32 || (127 ≤ n && n < 160)

/-- Drops the longest final stretch of characters that satisfy `p`. -/
def dropEndWhile (p : Char → Bool) (cs : List Char) : List Char :=
  (cs.reverse.dropWhile p).reverse

/-- Drops the blank characters at both ends. -/
def trimChars (cs : List Char) : List Char :=
  dropEndWhile isBlank (cs.dropWhile isBlank)

/-- The text without the blank characters at its ends. -/
def trim (s : String) : String :=
  String.ofList (trimChars s.toList)

/-- A text that holds nothing but blank characters. -/
def isBlankText (s : String) : Bool :=
  s.toList.all isBlank

/-- The first stretch of characters that are not blank, if there is one. -/
def firstWord? (s : String) : Option String :=
  match (s.toList.dropWhile isBlank).takeWhile (fun c => !isBlank c) with
  | [] => none
  | w => some (String.ofList w)

/-- Cuts a list of characters at every `sep`; there is always at least one piece. -/
def pieces (sep : Char) : List Char → List (List Char)
  | [] => [[]]
  | c :: cs =>
    if c = sep then [] :: pieces sep cs
    else
      match pieces sep cs with
      | [] => [[c]]
      | w :: ws => (c :: w) :: ws

/-- Cuts a text at every `sep`. -/
def split (sep : Char) (s : String) : List String :=
  (pieces sep s.toList).map String.ofList

theorem pieces_ne_nil (sep : Char) (cs : List Char) : pieces sep cs ≠ [] := by
  cases cs with
  | nil => simp [pieces]
  | cons c cs =>
    simp only [pieces]
    split
    · simp
    · split <;> simp

theorem pieces_append_sep {sep : Char} {p : List Char} (h : sep ∉ p) (cs : List Char) :
    pieces sep (p ++ sep :: cs) = p :: pieces sep cs := by
  induction p with
  | nil => simp [pieces]
  | cons c p ih =>
    rw [List.mem_cons, not_or] at h
    rw [List.cons_append, pieces, ih h.2, if_neg (Ne.symm h.1)]

theorem pieces_of_notMem {sep : Char} {p : List Char} (h : sep ∉ p) : pieces sep p = [p] := by
  induction p with
  | nil => rfl
  | cons c p ih =>
    rw [List.mem_cons, not_or] at h
    rw [pieces, ih h.2, if_neg (Ne.symm h.1)]

/-- All characters but the separators are in the pieces. -/
theorem flatten_pieces (sep : Char) (cs : List Char) :
    (pieces sep cs).flatten = cs.filter fun c => c ≠ sep := by
  induction cs with
  | nil => rfl
  | cons c cs ih =>
    by_cases hc : c = sep
    · simp [pieces, hc, ih]
    · rw [pieces, if_neg hc, List.filter_cons_of_pos (by simp [hc]), ← ih]
      cases hrest : pieces sep cs with
      | nil => exact absurd hrest (pieces_ne_nil sep cs)
      | cons w ws => simp

/-- The cuts stay where they are if the separators do. -/
theorem pieces_map {sep : Char} {f : Char → Char} {cs : List Char} (h : ∀ c ∈ cs, f c = sep ↔ c = sep) :
    pieces sep (cs.map f) = (pieces sep cs).map (List.map f) := by
  induction cs with
  | nil => rfl
  | cons c cs ih =>
    have hc := h c List.mem_cons_self
    have hrest := ih fun d hd => h d (List.mem_cons_of_mem _ hd)
    rw [List.map_cons, pieces, pieces, hrest]
    by_cases heq : c = sep
    · rw [if_pos (hc.mpr heq), if_pos heq]
      rfl
    · rw [if_neg (mt hc.mp heq), if_neg heq]
      cases pieces sep cs <;> rfl

end NodeAtlas.Text
