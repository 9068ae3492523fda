import Mathlib.Data.List.DropRight
import NodeAtlas.Proofs.Net.Segments

/-!
# Identifiers pasted into references

A reference into which an identifier is pasted as it is, behind a word and a slash, leads to the segment of
the identifier exactly if the identifier holds no character that means something in a reference, is neither
of the dot forms, and at the end of the reference does not end in what is dropped there. In one
direction the walk is followed. In the other, lengths are compared: what a reader gives a meaning to is
shorter in the path than in the segment, so a path of the full length has kept every character.
-/

namespace NodeAtlas.Net.Url

open NodeAtlas.Text

/-! ## The length of a path -/

/-- The characters in the segments of a path. -/
def pathLength (path : List String) : Nat := (path.flatMap String.toList).length

/-- The characters that a part of a reference adds to the path. -/
def written (cs : List Char) : List Char := percentEncode escapesInPath (cs.filter fun c => !isSlash c)

theorem percentEncode_append (escape : Char → Bool) (cs ds : List Char) :
    percentEncode escape (cs ++ ds) = percentEncode escape cs ++ percentEncode escape ds :=
  List.flatMap_append

theorem pathLength_append (xs ys : List String) :
    pathLength (xs ++ ys) = pathLength xs + pathLength ys := by
  simp [pathLength]

theorem pathLength_cons (x : String) (xs : List String) :
    pathLength (x :: xs) = x.toList.length + pathLength xs := by
  simp [pathLength]

theorem pathLength_dropLast_le (xs : List String) : pathLength xs.dropLast ≤ pathLength xs := by
  rcases List.eq_nil_or_concat' xs with rfl | ⟨ys, y, rfl⟩
  · exact Nat.le_refl _
  · rw [List.dropLast_concat, pathLength_append]
    omega

/-- A walk writes down no more than the pieces hold. -/
theorem pathLength_walk_le (done : List String) (ps : List (List Char)) :
    pathLength (walk done ps) ≤
      pathLength done + (ps.flatMap (percentEncode escapesInPath)).length := by
  induction ps generalizing done with
  | nil => simp [walk]
  | cons p ps ih =>
    rw [List.flatMap_cons, List.length_append]
    by_cases hdots : dotForm p = ['.', '.']
    · have hup := pathLength_dropLast_le done
      cases ps with
      | nil =>
        have hend : pathLength [""] = 0 := rfl
        rw [walk, if_pos hdots, pathLength_append, hend]
        omega
      | cons q ps =>
        rw [walk, if_pos hdots]
        have hrest := ih done.dropLast
        omega
    · by_cases hdot : dotForm p = ['.']
      · cases ps with
        | nil =>
          have hend : pathLength [""] = 0 := rfl
          rw [walk, if_neg hdots, if_pos hdot, pathLength_append, hend]
          omega
        | cons q ps =>
          rw [walk, if_neg hdots, if_pos hdot]
          have hrest := ih done
          omega
      · rw [walk_cons hdot hdots]
        have hrest := ih (done ++ [String.ofList (percentEncode escapesInPath p)])
        rw [pathLength_append, pathLength_cons, String.toList_ofList] at hrest
        have hend : pathLength [] = 0 := rfl
        omega

/-- The pieces of a path hold all of it but the slashes. -/
theorem flatMap_pathPieces (cs : List Char) :
    (pathPieces cs).flatMap (percentEncode escapesInPath) = written cs := by
  have hall : (pathPieces cs).flatten = cs.filter fun c => !isSlash c := by
    induction cs with
    | nil => rfl
    | cons c cs ih =>
      rw [pathPieces, List.filter_cons, ← ih]
      cases hslash : isSlash c with
      | true => simp
      | false =>
        cases hrest : pathPieces cs with
        | nil => exact absurd hrest (pathPieces_ne_nil cs)
        | cons w ws => simp
  rw [written, ← hall, percentEncode, List.flatten_eq_flatMap, List.flatMap_assoc]
  rfl

/-! ## What can be pasted -/

/-- The character ends the path of a reference. -/
def isMark (c : Char) : Bool := c == '?' || c == '#'

/-- The character means something in a reference, or it is dropped there. -/
def isSpecial (c : Char) : Bool := isSlash c || isGap c || isMark c || c == '%'

/-- What follows an identifier in a reference: nothing, or one more segment. -/
def behind (last : Option (List Char)) : List Char := last.elim [] ('/' :: ·)

/-- The identifier can be pasted into a reference, at its end or before one more segment. -/
structure Pastable (last : Option (List Char)) (id : List Char) : Prop where
  plain : ∀ c ∈ id, isSpecial c = false
  ne_dot : id ≠ ['.']
  ne_dots : id ≠ ['.', '.']
  /-- At the end of a reference, spaces and control characters are dropped. -/
  edge : last = none → ∀ c ∈ id.getLast?, isEdge c = false

/-- What is left of an identifier in a clean reference. -/
def kept (last : Option (List Char)) (id : List Char) : List Char :=
  (if last.isNone then id.rdropWhile isEdge else id).filter fun c => !isGap c

section Pasted

variable {lead : List Char} {last : Option (List Char)} {id : List Char}

theorem clean_pasted (hlead : IsWord lead) (hlast : ∀ w ∈ last, IsWord w) (id : List Char) :
    clean (lead ++ '/' :: (id ++ behind last)) = lead ++ '/' :: (kept last id ++ behind last) := by
  have hslash : isEdge '/' = false := rfl
  rw [clean_append hlead (by simp), rdropWhile_cons_of_neg hslash,
    List.filter_cons_of_pos (by decide)]
  cases last with
  | none => simp [behind, kept]
  | some w =>
    have hend : (id ++ '/' :: w).rdropWhile isEdge = id ++ '/' :: w := by
      rw [List.rdropWhile_eq_self_iff]
      intro hne
      rw [List.getLast_append_of_ne_nil _ (by simp), List.getLast_cons (hlast w rfl).1]
      have hw := (hlast w rfl).2 _ (List.getLast_mem (hlast w rfl).1)
      simp [isEdge_of_isAlphanumeric hw]
    simp only [behind, Option.elim_some, hend, kept, List.filter_append]
    rw [List.filter_cons_of_pos (by decide), filter_word (hlast w rfl)]
    simp

theorem path_ofChars (cs : List Char) :
    (Tail.ofChars cs).path = cs.takeWhile fun c => !isMark c := by
  have hboth : (fun c : Char => decide (c ≠ '?' ∧ c ≠ '#')) = fun c => !isMark c := by
    funext c
    rw [Bool.eq_iff_iff]
    simp [isMark]
  rw [← hboth]
  simp only [Tail.ofChars, List.takeWhile_takeWhile, decide_eq_true_eq]

/-- Through the word in front, the walk comes to what is left of the identifier. -/
theorem path_pasted (base : Url) (hlead : IsWord lead) (hlast : ∀ w ∈ last, IsWord w)
    (id : List Char) :
    (below base (clean (lead ++ '/' :: (id ++ behind last)))).path =
      walk (base.path.dropLast ++ [String.ofList lead])
        (pathPieces ((kept last id ++ behind last).takeWhile fun c => !isMark c)) := by
  have hplain : ∀ c ∈ lead, c ≠ '?' ∧ c ≠ '#' := fun c hc =>
    (plain_of_isAlphanumeric (hlead.2 c hc)).2.2.2
  have hslash : ∀ c ∈ lead, isSlash c = false := fun c hc => isSlash_of_isAlphanumeric (hlead.2 c hc)
  rw [clean_pasted hlead hlast, below, path_ofChars,
    List.takeWhile_append_of_pos fun c hc => by simp [isMark, hplain c hc],
    List.takeWhile_cons_of_pos (by decide), pathPieces_append_slash hslash, walk_word hlead]

/-! ## The length of an identifier -/

theorem percentEncode_singleton (escape : Char → Bool) (c : Char) :
    percentEncode escape [c] = if escape c then percentChar c else [c] :=
  List.flatMap_singleton _ _

theorem three_le_length_percentChar (c : Char) : 3 ≤ (percentChar c).length := by
  unfold percentChar
  cases henc : String.utf8EncodeChar c with
  | nil => exact absurd henc String.utf8EncodeChar_ne_nil
  | cons b bs =>
    rw [List.flatMap_cons, List.length_append]
    exact Nat.le_add_right 3 _

theorem length_segment_pos (c : Char) : 0 < (percentEncode escapesInSegment [c]).length := by
  have hlong := three_le_length_percentChar c
  rw [percentEncode_singleton]
  split
  · omega
  · exact Nat.one_pos

/-- A character takes up no more room in a path than in a segment. -/
theorem length_written_le (c : Char) :
    (written [c]).length ≤ (percentEncode escapesInSegment [c]).length := by
  have hlong := three_le_length_percentChar c
  cases hslash : isSlash c with
  | true => simp [written, hslash, percentEncode]
  | false =>
    have hwritten : written [c] = percentEncode escapesInPath [c] := by simp [written, hslash]
    rw [hwritten, percentEncode_singleton, percentEncode_singleton]
    cases hpath : escapesInPath c with
    | true => simp [escapesInSegment, hpath]
    | false =>
      simp only [Bool.false_eq_true, if_false, List.length_singleton]
      split
      · omega
      · exact Nat.le_refl 1

/-- Slashes and percent signs take up more room in a segment. -/
theorem plain_of_length_le {c : Char}
    (h : (percentEncode escapesInSegment [c]).length ≤ (written [c]).length) :
    isSlash c = false ∧ c ≠ '%' := by
  have hpos := length_segment_pos c
  constructor
  · cases hslash : isSlash c with
    | false => rfl
    | true =>
      have hnil : written [c] = [] := by simp [written, hslash, percentEncode]
      rw [hnil, List.length_nil] at h
      omega
  · rintro rfl
    exact absurd h (by decide)

theorem written_append (cs ds : List Char) : written (cs ++ ds) = written cs ++ written ds := by
  rw [written, List.filter_append, percentEncode_append]
  rfl

theorem written_cons (c : Char) (cs : List Char) : written (c :: cs) = written [c] ++ written cs :=
  written_append [c] cs

theorem percentEncode_cons (escape : Char → Bool) (c : Char) (cs : List Char) :
    percentEncode escape (c :: cs) = percentEncode escape [c] ++ percentEncode escape cs :=
  percentEncode_append escape [c] cs

theorem length_written_le_of_sublist {xs ys : List Char} (h : xs.Sublist ys) :
    (written xs).length ≤ (percentEncode escapesInSegment ys).length := by
  induction h with
  | slnil => exact Nat.le_refl _
  | cons c _ ih =>
    rw [percentEncode_cons, List.length_append]
    omega
  | cons_cons c _ ih =>
    have hc := length_written_le c
    rw [written_cons, percentEncode_cons, List.length_append, List.length_append]
    omega

/-- Only the whole of a plain identifier takes up as much room in a path as in a segment. -/
theorem eq_of_length_le {xs ys : List Char} (h : xs.Sublist ys)
    (hlength : (percentEncode escapesInSegment ys).length ≤ (written xs).length) :
    xs = ys ∧ ∀ c ∈ ys, isSlash c = false ∧ c ≠ '%' := by
  induction h with
  | slnil => simp
  | cons c hsub ih =>
    have hpos := length_segment_pos c
    have hle := length_written_le_of_sublist hsub
    rw [percentEncode_cons, List.length_append] at hlength
    omega
  | cons_cons c hsub ih =>
    have hle := length_written_le_of_sublist hsub
    have hc := length_written_le c
    rw [written_cons, percentEncode_cons, List.length_append, List.length_append] at hlength
    obtain ⟨rfl, hplain⟩ := ih (by omega)
    have hfirst : (percentEncode escapesInSegment [c]).length ≤ (written [c]).length := by omega
    refine ⟨rfl, ?_⟩
    intro d hd
    rcases List.mem_cons.mp hd with rfl | hd
    · exact plain_of_length_le hfirst
    · exact hplain d hd

theorem kept_sublist (last : Option (List Char)) (id : List Char) : (kept last id).Sublist id := by
  refine List.filter_sublist.trans ?_
  split
  · exact (List.rdropWhile_prefix _ _).sublist
  · exact List.Sublist.refl _

/-- The segments behind that of the identifier. -/
def lastSegments (last : Option (List Char)) : List String := last.toList.map String.ofList

theorem length_written_behind (hlast : ∀ w ∈ last, IsWord w) :
    (written (behind last)).length = pathLength (lastSegments last) := by
  cases last with
  | none => rfl
  | some w =>
    have hw := (hlast w rfl).2
    have hslash : ∀ c ∈ w, (!isSlash c) = true := fun c hc => by
      rw [isSlash_of_isAlphanumeric (hw c hc)]
      rfl
    have hwhole : written w = w := by
      rw [written, List.filter_eq_self.mpr hslash]
      exact percentEncode_eq_self fun c hc => (plain_of_isAlphanumeric (hw c hc)).1
    have hnil : written ['/'] = [] := rfl
    rw [behind, Option.elim_some, written_cons, hnil, hwhole]
    simp [lastSegments, pathLength]

/-! ## Segments and paths -/

theorem takeWhile_behind (hlast : ∀ w ∈ last, IsWord w) :
    (behind last).takeWhile (fun c => !isMark c) = behind last := by
  rw [List.takeWhile_eq_self_iff]
  intro c hc
  cases last with
  | none => simp [behind] at hc
  | some w =>
    rcases List.mem_cons.mp hc with rfl | hc
    · rfl
    · have hplain := plain_of_isAlphanumeric ((hlast w rfl).2 c hc)
      simp [isMark, hplain.2.2.2]

theorem exists_takeWhile_pasted (hlast : ∀ w ∈ last, IsWord w) (k : List Char) :
    ∃ b, (k ++ behind last).takeWhile (fun c => !isMark c) = k.takeWhile (fun c => !isMark c) ++ b ∧
      (written b).length ≤ pathLength (lastSegments last) := by
  rw [List.takeWhile_append]
  split
  · rename_i hall
    refine ⟨behind last, ?_, Nat.le_of_eq (length_written_behind hlast)⟩
    rw [takeWhile_behind hlast, (List.takeWhile_prefix _).eq_of_length hall]
  · exact ⟨[], (List.append_nil _).symm, Nat.zero_le _⟩

theorem plain_of_path_eq (base : Url) (hlead : IsWord lead) (hlast : ∀ w ∈ last, IsWord w)
    (h : (below base (clean (lead ++ '/' :: (id ++ behind last)))).path =
      base.path.dropLast ++ [String.ofList lead] ++ segment (String.ofList id) :: lastSegments last) :
    (∀ c ∈ id, isSpecial c = false) ∧ (last = none → ∀ c ∈ id.getLast?, isEdge c = false) := by
  rw [path_pasted base hlead hlast] at h
  obtain ⟨b, hcut, hb⟩ := exists_takeWhile_pasted hlast (kept last id)
  have hkept : ((kept last id).takeWhile fun c => !isMark c).Sublist (kept last id) :=
    (List.takeWhile_prefix _).sublist
  have hlength := pathLength_walk_le (base.path.dropLast ++ [String.ofList lead])
    (pathPieces ((kept last id ++ behind last).takeWhile fun c => !isMark c))
  rw [h, pathLength_append _ (_ :: _), flatMap_pathPieces, hcut, written_append, List.length_append,
    pathLength_cons, segment, String.toList_ofList, String.toList_ofList] at hlength
  obtain ⟨hwhole, hplain⟩ := eq_of_length_le (hkept.trans (kept_sublist last id)) (by omega)
  rw [hwhole] at hkept
  have hall : kept last id = id := (kept_sublist last id).antisymm hkept
  constructor
  · intro c hc
    have hgap : isGap c = false := by
      have hmem : c ∈ kept last id := hall.symm ▸ hc
      simpa using (List.mem_filter.mp hmem).2
    have hmark : isMark c = false := by
      have hmem : c ∈ (kept last id).takeWhile fun c => !isMark c := hwhole.symm ▸ hc
      simpa using List.mem_takeWhile_imp hmem
    simp [isSpecial, hgap, hmark, (hplain c hc).1, (hplain c hc).2]
  · rintro rfl c hc
    have hedges : id.rdropWhile isEdge = id := by
      have hsub : id.Sublist (id.rdropWhile isEdge) := by
        conv_lhs => rw [← hall]
        exact List.filter_sublist
      exact ((List.rdropWhile_prefix _ _).sublist).antisymm hsub
    rw [List.rdropWhile_eq_self_iff] at hedges
    obtain ⟨ys, rfl⟩ := List.getLast?_eq_some_iff.mp hc
    simpa using hedges (by simp)

/-- An identifier without special characters is left as it is, unless its end is dropped. -/
theorem kept_of_plain (hplain : ∀ c ∈ id, isSpecial c = false)
    (hedge : last = none → ∀ c ∈ id.getLast?, isEdge c = false) : kept last id = id := by
  have hgaps : id.filter (fun c => !isGap c) = id := by
    rw [List.filter_eq_self]
    intro c hc
    have hc := hplain c hc
    simp only [isSpecial, Bool.or_eq_false_iff] at hc
    simp [hc.1.1.2]
  cases last with
  | some w => simpa [kept] using hgaps
  | none =>
    have hedges : id.rdropWhile isEdge = id := by
      rw [List.rdropWhile_eq_self_iff]
      intro hne
      simp [hedge rfl _ (List.getLast_mem_getLast? hne)]
    simpa [kept, hedges] using hgaps

/-- The path to which a plain identifier leads. -/
theorem path_of_plain (base : Url) (hlead : IsWord lead) (hlast : ∀ w ∈ last, IsWord w)
    (hplain : ∀ c ∈ id, isSpecial c = false)
    (hedge : last = none → ∀ c ∈ id.getLast?, isEdge c = false) :
    (below base (clean (lead ++ '/' :: (id ++ behind last)))).path =
      walk (base.path.dropLast ++ [String.ofList lead]) (id :: last.toList) := by
  have hslash : ∀ c ∈ id, isSlash c = false := by
    intro c hc
    have hc := hplain c hc
    simp only [isSpecial, Bool.or_eq_false_iff] at hc
    exact hc.1.1.1
  have hmarks : ∀ c ∈ id, (!isMark c) = true := by
    intro c hc
    have hc := hplain c hc
    simp only [isSpecial, Bool.or_eq_false_iff] at hc
    simp [hc.1.2]
  rw [path_pasted base hlead hlast, kept_of_plain hplain hedge, List.takeWhile_append_of_pos hmarks,
    takeWhile_behind hlast]
  cases last with
  | none => simp [behind, pathPieces_of_ne_slash hslash]
  | some w =>
    have hw : ∀ c ∈ w, isSlash c = false := fun c hc =>
      isSlash_of_isAlphanumeric ((hlast w rfl).2 c hc)
    simp [behind, pathPieces_append_slash hslash, pathPieces_of_ne_slash hw]

theorem percentEncode_of_plain (hplain : ∀ c ∈ id, isSpecial c = false) :
    percentEncode escapesInPath id = percentEncode escapesInSegment id := by
  unfold percentEncode
  refine List.flatMap_congr fun c hc => ?_
  have hc := hplain c hc
  simp only [isSpecial, isSlash, Bool.or_eq_false_iff, beq_eq_false_iff_ne] at hc
  have hsame : escapesInSegment c = escapesInPath c := by
    simp [escapesInSegment, hc.1.1.1.1, hc.1.1.1.2, hc.2]
  rw [hsame]

theorem walk_lastSegments (hlast : ∀ w ∈ last, IsWord w) (done : List String) :
    walk done last.toList = done ++ lastSegments last := by
  cases last with
  | none => simp [walk, lastSegments]
  | some w =>
    rw [Option.toList_some, walk_word (hlast w rfl)]
    rfl

/-- Dots leave nothing of their own in a path. -/
theorem pathLength_walk_dots_le (hlast : ∀ w ∈ last, IsWord w) (done : List String)
    (hdots : id = ['.'] ∨ id = ['.', '.']) :
    pathLength (walk done (id :: last.toList)) ≤ pathLength done + pathLength (lastSegments last) := by
  have hup := pathLength_dropLast_le done
  have hend : pathLength [""] = 0 := rfl
  have hdot : dotForm ['.'] = ['.'] := rfl
  have hdots' : dotForm ['.', '.'] = ['.', '.'] := rfl
  cases last with
  | none =>
    rcases hdots with rfl | rfl
    · simp [walk, hdot, pathLength_append, hend]
    · simp only [Option.toList_none, walk, hdots', if_true, pathLength_append, hend]
      omega
  | some w =>
    have hstay : walk done (['.'] :: [w]) = walk done [w] := rfl
    have hleave : walk done (['.', '.'] :: [w]) = walk done.dropLast [w] := rfl
    have hrest := walk_lastSegments hlast
    rw [Option.toList_some] at hrest ⊢
    rcases hdots with rfl | rfl
    · rw [hstay, hrest, pathLength_append]
    · rw [hleave, hrest, pathLength_append]
      omega

/-- A reference leads to the segment of its identifier exactly if it can be pasted. -/
theorem path_eq_iff_pastable (base : Url) (hlead : IsWord lead) (hlast : ∀ w ∈ last, IsWord w)
    (id : List Char) :
    (below base (clean (lead ++ '/' :: (id ++ behind last)))).path =
        base.path.dropLast ++ [String.ofList lead] ++ segment (String.ofList id) :: lastSegments last ↔
      Pastable last id := by
  constructor
  · intro h
    obtain ⟨hplain, hedge⟩ := plain_of_path_eq base hlead hlast h
    rw [path_of_plain base hlead hlast hplain hedge] at h
    have hdots : ¬ (id = ['.'] ∨ id = ['.', '.']) := by
      intro hdots
      have hle := pathLength_walk_dots_le hlast (base.path.dropLast ++ [String.ofList lead]) hdots
      rw [h, pathLength_append _ (_ :: _), pathLength_cons, segment, String.toList_ofList,
        String.toList_ofList] at hle
      have hpos : 0 < (percentEncode escapesInSegment id).length := by
        rcases hdots with rfl | rfl <;> decide
      omega
    exact ⟨hplain, fun hdot => hdots (.inl hdot), fun h => hdots (.inr h), hedge⟩
  · rintro ⟨hplain, hdot, hdots, hedge⟩
    have hform : dotForm id = id := dotForm_of_ne_percent fun c hc => by
      have hc := hplain c hc
      simp only [isSpecial, Bool.or_eq_false_iff, beq_eq_false_iff_ne] at hc
      exact hc.2
    rw [path_of_plain base hlead hlast hplain hedge, walk_cons (by rwa [hform]) (by rwa [hform]),
      walk_lastSegments hlast, percentEncode_of_plain hplain, segment, String.toList_ofList,
      List.append_assoc _ [_] (lastSegments last), List.singleton_append]

theorem tail_of_not_isMark {cs : List Char} (h : ∀ c ∈ cs, isMark c = false) :
    (Tail.ofChars cs).encodedQuery = none ∧ (Tail.ofChars cs).encodedFragment = none := by
  have hsign : ∀ c ∈ cs, decide (c ≠ '#') = true := by
    rintro c hc
    rw [decide_eq_true_eq]
    rintro rfl
    exact absurd (h '#' hc) (by decide)
  have hmark : ∀ c ∈ cs, decide (c ≠ '?') = true := by
    rintro c hc
    rw [decide_eq_true_eq]
    rintro rfl
    exact absurd (h '?' hc) (by decide)
  have hfront : cs.takeWhile (fun c => decide (c ≠ '#')) = cs := List.takeWhile_eq_self_iff.mpr hsign
  simp only [Tail.encodedQuery, Tail.encodedFragment, Tail.ofChars, hfront,
    List.dropWhile_eq_nil_iff.mpr hsign, List.dropWhile_eq_nil_iff.mpr hmark]
  exact ⟨rfl, rfl⟩

/-- From an identifier that can be pasted nothing comes but a segment of the path. -/
theorem below_of_pastable (base : Url) (hlead : IsWord lead) (hlast : ∀ w ∈ last, IsWord w)
    (h : Pastable last id) :
    below base (clean (lead ++ '/' :: (id ++ behind last))) =
      ⟨base.origin,
        base.path.dropLast ++ [String.ofList lead] ++ segment (String.ofList id) :: lastSegments last,
        none, none⟩ := by
  have hmarks : ∀ c ∈ lead ++ '/' :: (id ++ behind last), isMark c = false := by
    intro c hc
    rw [List.mem_append, List.mem_cons, List.mem_append] at hc
    rcases hc with hc | rfl | hc | hc
    · have hplain := plain_of_isAlphanumeric (hlead.2 c hc)
      simp [isMark, hplain.2.2.2]
    · rfl
    · have hplain := h.plain c hc
      simp only [isSpecial, Bool.or_eq_false_iff] at hplain
      exact hplain.1.2
    · have hall := List.takeWhile_eq_self_iff.mp (takeWhile_behind hlast) c hc
      simpa using hall
  rw [← (path_eq_iff_pastable base hlead hlast id).mpr h, clean_pasted hlead hlast,
    kept_of_plain h.plain h.edge]
  obtain ⟨hquery, hfragment⟩ := tail_of_not_isMark hmarks
  rw [below, hquery, hfragment]

end Pasted

end NodeAtlas.Net.Url
