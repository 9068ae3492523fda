import Mathlib.Data.List.Forall2
import NodeAtlas.Json.Reader
import NodeAtlas.Json.Writer
import NodeAtlas.Proofs.Text.Ascii

/-!
# Written values are read back

A value whose strings all denote texts and whose numerals are all natural is read back from its text,
wherever the text stands among others. A number is the only value whose end shows by what follows it.
-/

namespace NodeAtlas.Json

open NodeAtlas.Text

variable {c d : Char} {cs ds rest : List Char} {n fuel : Nat}

/-! ## Strings -/

/-- The ways to write a character inside a string. -/
inductive Spelled (c : Char) : List Char → Prop where
  | sign {e : Char} (h : escape? e = some c) : Spelled c ['\\', e]
  | code {w x y z : Char} (h : hex4? w x y z = some c.toNat) (hsmall : c.toNat < 32) :
      Spelled c ['\\', 'u', w, x, y, z]
  | plain (hlarge : 32 ≤ c.toNat) (hquote : c ≠ '"') (hslash : c ≠ '\\') : Spelled c [c]

theorem hex4?_hexDigit :
    ∀ n < 32, hex4? '0' '0' (hexDigit (n / 16)) (hexDigit (n % 16)) = some n := by
  decide

theorem spelled_escapeChar (c : Char) : Spelled c (escapeChar c) := by
  unfold escapeChar
  split
  · exact .sign rfl
  · exact .sign rfl
  · exact .sign rfl
  · exact .sign rfl
  · exact .sign rfl
  · exact .sign rfl
  · exact .sign rfl
  · rename_i hquote hslash _ _ _ _ _
    split
    · rename_i hsmall
      exact .code (hex4?_hexDigit _ hsmall) hsmall
    · rename_i hlarge
      exact .plain (Nat.le_of_not_lt hlarge) hquote hslash

/-- The item stands for the character, and not for half of a surrogate pair. -/
inductive Unit16.Means (c : Char) : Unit16 → Prop where
  | char : Means c (.char c)
  | code (hsmall : c.toNat < 32) : Means c (.code c.toNat)

theorem Spelled.exists_readUnits {w : List Char} (h : Spelled c w) :
    ∃ u, Unit16.Means c u ∧
      ∀ cs, readUnits (w ++ cs) = (readUnits cs).map fun r => (u :: r.1, r.2) := by
  cases h with
  | @sign e he =>
    refine ⟨.char c, .char, fun cs => ?_⟩
    have hu : e ≠ 'u' := by
      rintro rfl
      cases he
    simp only [List.cons_append, List.nil_append]
    rw [readUnits.eq_4 _ _ (by simp [hu]), he]
    cases readUnits cs <;> rfl
  | code h hsmall =>
    refine ⟨.code c.toNat, .code hsmall, fun cs => ?_⟩
    simp only [List.cons_append, List.nil_append, readUnits, h]
    cases readUnits cs <;> rfl
  | plain hlarge hquote hslash =>
    refine ⟨.char c, .char, fun cs => ?_⟩
    simp only [List.cons_append, List.nil_append]
    rw [readUnits.eq_5 _ _ hquote (by simp [hslash]) (by simp [hslash])]
    rw [if_neg (by simp [hslash]; omega)]

theorem decodeUnits_code (hsmall : n < 32) (us : List Unit16) :
    decodeUnits (.code n :: us) = (decodeUnits us).map (Char.ofNat n :: ·) := by
  have hhigh : isHighHalf n = false := by simp [isHighHalf]; omega
  have hlow : isLowHalf n = false := by simp [isLowHalf]; omega
  cases us with
  | nil => simp [decodeUnits, hhigh, hlow]
  | cons u us => cases u <;> simp [decodeUnits, hhigh, hlow]

theorem decodeUnits_of_means {us : List Unit16} (h : List.Forall₂ Unit16.Means cs us) :
    decodeUnits us = some cs := by
  induction h with
  | nil => rfl
  | @cons c u cs us hmeans _ ih =>
    cases hmeans with
    | char => rw [decodeUnits, ih, Option.map_some]
    | code hsmall => rw [decodeUnits_code hsmall, ih, Option.map_some, Char.ofNat_toNat]

theorem exists_readUnits_flatMap (cs rest : List Char) :
    ∃ us, List.Forall₂ Unit16.Means cs us ∧
      readUnits (cs.flatMap escapeChar ++ '"' :: rest) = some (us, rest) := by
  induction cs with
  | nil => exact ⟨[], .nil, rfl⟩
  | cons c cs ih =>
    obtain ⟨us, hus, hread⟩ := ih
    obtain ⟨u, hu, hchar⟩ := (spelled_escapeChar c).exists_readUnits
    refine ⟨u :: us, .cons hu hus, ?_⟩
    rw [List.flatMap_cons, List.append_assoc, hchar, hread, Option.map_some]

/-- A text is read back behind its opening quote. -/
theorem readText_flatMap (s : String) (rest : List Char) :
    readText (s.toList.flatMap escapeChar ++ '"' :: rest) = some (some s, rest) := by
  obtain ⟨us, hus, hread⟩ := exists_readUnits_flatMap s.toList rest
  rw [readText, hread, Option.map_some, decodeUnits_of_means hus, Option.map_some,
    String.ofList_toList]

/-! ## Numbers -/

/-- A value may end here: nothing follows, or a comma or a closing bracket. -/
inductive Ends : List Char → Prop where
  | nil : Ends []
  | comma (cs : List Char) : Ends (',' :: cs)
  | bracket (cs : List Char) : Ends (']' :: cs)
  | brace (cs : List Char) : Ends ('\x7d' :: cs)

theorem takeDigits_append (hds : ∀ d ∈ ds, isDigit d = true) (h : Ends rest) :
    takeDigits (ds ++ rest) = (ds, rest) := by
  unfold takeDigits
  rw [List.takeWhile_append_of_pos hds, List.dropWhile_append_of_pos hds]
  cases h <;> simp [isDigit]

theorem skipFraction_of_ends (h : Ends rest) : skipFraction rest = some (false, rest) := by
  cases h <;> rfl

theorem skipExponent_of_ends (h : Ends rest) : skipExponent rest = some (false, rest) := by
  cases h <;> rfl

theorem decimal_eq_ofDigitChars (ds : List Char) : decimal ds = Nat.ofDigitChars 10 ds 0 := by
  unfold decimal Nat.ofDigitChars
  simp only [Nat.mul_comm]

theorem head?_toDigits_ne_zero (hn : 0 < n) : (Nat.toDigits 10 n).head? ≠ some '0' := by
  induction n using Nat.strongRecOn with
  | ind n ih =>
    rw [Nat.toDigits_eq_if (by decide)]
    split
    · rename_i hlt
      have hdigit : ∀ n < 10, 0 < n → n.digitChar ≠ '0' := by decide
      simpa using hdigit n hlt hn
    · rename_i hge
      rw [List.head?_append, Option.or_of_isSome (by simp)]
      exact ih (n / 10) (by omega) (by omega)

/-- A number has no leading zero. -/
theorem not_leading_zero (n : Nat) :
    ¬ ((Nat.toDigits 10 n).head? = some '0' ∧ 1 < (Nat.toDigits 10 n).length) := by
  rintro ⟨hhead, hlength⟩
  rcases Nat.eq_zero_or_pos n with rfl | hn
  · exact absurd hlength (by decide)
  · exact head?_toDigits_ne_zero hn hhead

theorem readNumeral_toDigits (n : Nat) (h : Ends rest) :
    readNumeral false (Nat.toDigits 10 n ++ rest) = some (.natural n, rest) := by
  have hempty : (Nat.toDigits 10 n).isEmpty = false := by simp
  have hzero : ((Nat.toDigits 10 n).head? == some '0' &&
      decide (1 < (Nat.toDigits 10 n).length)) = false := by
    simpa using not_leading_zero n
  have hvalue : decimal (Nat.toDigits 10 n) = n := by
    rw [decimal_eq_ofDigitChars, Nat.ofDigitChars_ten_toDigits]
  unfold readNumeral
  simp only [takeDigits_append (fun _ => isDigit_of_mem_toDigits) h, hempty, hzero,
    skipFraction_of_ends h, Option.bind_eq_bind, Option.bind_some, skipExponent_of_ends h, hvalue]
  rfl

/-! ## Values -/

/-- Every string in the value denotes a text, and every numeral a natural number. -/
inductive Plain : Json → Prop where
  | null : Plain .null
  | bool (b : Bool) : Plain (.bool b)
  | natural (n : Nat) : Plain (.natural n)
  | text (s : String) : Plain (.text s)
  | array {vs : List Json} (h : ∀ v ∈ vs, Plain v) : Plain (.array vs)
  | record {ms : List (String × Json)} (h : ∀ m ∈ ms, Plain m.2) : Plain (.record ms)

/-- The value is read back wherever its text stands before an end. -/
def ReadBack (v : Json) : Prop :=
  ∀ fuel rest, (write v).length ≤ fuel → Ends rest →
    readValue fuel (write v ++ rest) = some (v, rest)

theorem skip_cons (h : isSpace c = false) : skip (c :: cs) = c :: cs :=
  List.dropWhile_cons_of_neg (by simp [h])

theorem isSpace_of_isDigit (h : isDigit c = true) : isSpace c = false := by
  have hcode := isDigit_iff.mp h
  refine of_ascii (P := fun c => isDigit c = true → isSpace c = false) ?_ (by omega) h
  decide

theorem exists_toDigits_eq (n : Nat) :
    ∃ c cs, Nat.toDigits 10 n = c :: cs ∧ isDigit c = true := by
  obtain ⟨c, cs, hcs⟩ := List.exists_cons_of_ne_nil (Nat.toDigits_ne_nil (b := 10) (n := n))
  exact ⟨c, cs, hcs, isDigit_of_mem_toDigits (hcs ▸ List.mem_cons_self)⟩

/-- A value begins neither with a blank nor as a list ends. -/
theorem exists_write_eq (v : Json) :
    ∃ c cs, write v = c :: cs ∧ isSpace c = false ∧ c ≠ ']' := by
  cases v with
  | null => exact ⟨'n', _, rfl, by decide, by decide⟩
  | bool b => cases b <;> exact ⟨_, _, rfl, by decide, by decide⟩
  | natural n =>
    obtain ⟨c, cs, hcs, hc⟩ := exists_toDigits_eq n
    refine ⟨c, cs, by rw [write, hcs], isSpace_of_isDigit hc, ?_⟩
    rintro rfl
    cases hc
  | numeral => exact ⟨'n', _, rfl, by decide, by decide⟩
  | text s => exact ⟨'"', _, by rw [write, writeText], by decide, by decide⟩
  | brokenText => exact ⟨'n', _, rfl, by decide, by decide⟩
  | array vs => cases vs <;> exact ⟨'[', _, by rw [write], by decide, by decide⟩
  | object ms =>
    rcases ms with _ | ⟨⟨k, v⟩, ms⟩ <;> exact ⟨'\x7b', _, by rw [write], by decide, by decide⟩

/-- It is enough to look at fuel that is not used up. -/
theorem readBack_of_succ {v : Json}
    (h : ∀ fuel rest, (write v).length ≤ fuel + 1 → Ends rest →
      readValue (fuel + 1) (write v ++ rest) = some (v, rest)) : ReadBack v := by
  intro fuel rest hfuel hends
  cases fuel with
  | zero =>
    obtain ⟨c, cs, hcs, -⟩ := exists_write_eq v
    rw [hcs] at hfuel
    cases hfuel
  | succ fuel => exact h fuel rest hfuel hends

theorem readBack_null : ReadBack .null := readBack_of_succ fun _ _ _ _ => rfl

theorem readBack_bool (b : Bool) : ReadBack (.bool b) := by
  cases b <;> exact readBack_of_succ fun _ _ _ _ => rfl

theorem readValue_digit (h : isDigit c = true) :
    readValue (fuel + 1) (c :: cs) = readNumeral false (c :: cs) := by
  have hdigit : ∀ {d ds}, c :: cs = d :: ds → isDigit d = true := fun heq => (List.cons.inj heq).1 ▸ h
  rw [readValue, skip_cons (isSpace_of_isDigit h)]
  split
  case h_8 => rfl
  -- All other values begin with a sign of their own.
  all_goals exact absurd (hdigit ‹_›) (by decide)

theorem readBack_natural (n : Nat) : ReadBack (.natural n) := by
  refine readBack_of_succ fun fuel rest _ hends => ?_
  obtain ⟨c, cs, hcs, hc⟩ := exists_toDigits_eq n
  have hread := readNumeral_toDigits n hends
  rw [hcs, List.cons_append] at hread
  rw [write, hcs, List.cons_append, readValue_digit hc, hread]

theorem writeText_append (s : String) (rest : List Char) :
    writeText s ++ rest = '"' :: (s.toList.flatMap escapeChar ++ '"' :: rest) := by
  simp [writeText]

theorem readBack_text (s : String) : ReadBack (.text s) := by
  refine readBack_of_succ fun fuel rest _ _ => ?_
  rw [write, writeText_append, readValue, skip_cons (by decide)]
  simp only [readText_flatMap, Option.map_some]

/-! ### Lists -/

theorem ends_writeItems (vs : List Json) (rest : List Char) : Ends (writeItems vs ++ rest) := by
  cases vs with
  | nil => exact .bracket rest
  | cons v vs => exact .comma _

theorem readItems_writeItems {v : Json} {vs : List Json} (hv : ReadBack v)
    (hvs : ∀ w ∈ vs, ReadBack w) (hfuel : (write v).length + (writeItems vs).length ≤ fuel) :
    readItems fuel (write v ++ (writeItems vs ++ rest)) = some (v :: vs, rest) := by
  induction vs generalizing v fuel with
  | nil =>
    obtain _ | fuel := fuel
    · simp [writeItems] at hfuel
    · rw [readItems, hv fuel _ (by simpa [writeItems] using hfuel) (ends_writeItems [] rest)]
      rfl
  | cons w ws ih =>
    obtain _ | fuel := fuel
    · simp [writeItems] at hfuel
    · simp only [writeItems, List.length_cons, List.length_append] at hfuel
      -- The comma is the character that pays for the step to the next item.
      have hnext : readItems fuel (write w ++ (writeItems ws ++ rest)) = some (w :: ws, rest) :=
        ih (hvs w List.mem_cons_self) (fun u hu => hvs u (List.mem_cons_of_mem w hu)) (by omega)
      rw [readItems, hv fuel _ (by omega) (ends_writeItems (w :: ws) rest)]
      simp only [writeItems, List.cons_append, List.append_assoc]
      rw [skip_cons (by decide)]
      simp only [hnext, Option.map_some]

theorem readBack_array {vs : List Json} (h : ∀ v ∈ vs, ReadBack v) : ReadBack (.array vs) := by
  refine readBack_of_succ fun fuel rest hfuel _ => ?_
  cases vs with
  | nil => rfl
  | cons v vs =>
    simp only [write, List.length_cons, List.length_append] at hfuel
    have hitems : readItems fuel (write v ++ (writeItems vs ++ rest)) = some (v :: vs, rest) :=
      readItems_writeItems (h v List.mem_cons_self) (fun w hw => h w (List.mem_cons_of_mem v hw))
        (by omega)
    -- The list does not end before its first item.
    obtain ⟨c, cs, hcs, hspace, hbracket⟩ := exists_write_eq v
    rw [write, List.cons_append, List.append_assoc, readValue, skip_cons (by decide)]
    rw [hcs, List.cons_append] at hitems ⊢
    simp only [skip_cons hspace, hitems]
    split
    · rename_i heq
      exact absurd (List.cons.inj heq).1 hbracket
    · rfl

/-! ### Objects -/

theorem ends_writeMembers (ms : List (Option String × Json)) (rest : List Char) :
    Ends (writeMembers ms ++ rest) := by
  rcases ms with _ | ⟨⟨k, v⟩, ms⟩
  · exact .brace rest
  · exact .comma _

/-- The members of a record as an object has them. -/
def namedMembers (ms : List (String × Json)) : List (Option String × Json) :=
  ms.map fun m => (some m.1, m.2)

theorem writeMembers_namedMembers_cons (m : String × Json) (ms : List (String × Json)) :
    writeMembers (namedMembers (m :: ms)) =
      ',' :: (writeText m.1 ++ ':' :: (write m.2 ++ writeMembers (namedMembers ms))) := by
  rw [namedMembers, List.map_cons, writeMembers, Option.getD_some]
  rfl

theorem write_record_cons (m : String × Json) (ms : List (String × Json)) :
    write (.record (m :: ms)) =
      '\x7b' :: (writeText m.1 ++ ':' :: (write m.2 ++ writeMembers (namedMembers ms))) := by
  rw [record, List.map_cons, write, Option.getD_some]
  rfl

theorem readMembers_writeMembers {k : String} {v : Json} {ms : List (String × Json)}
    (hv : ReadBack v) (hms : ∀ m ∈ ms, ReadBack m.2)
    (hfuel : (write v).length + (writeMembers (namedMembers ms)).length ≤ fuel) :
    readMembers fuel (writeText k ++ ':' :: (write v ++ (writeMembers (namedMembers ms) ++ rest))) =
      some ((some k, v) :: namedMembers ms, rest) := by
  induction ms generalizing k v fuel with
  | nil =>
    obtain _ | fuel := fuel
    · simp [namedMembers, writeMembers] at hfuel
    · have hvalue := hv fuel _ (by simpa [namedMembers, writeMembers] using hfuel)
        (ends_writeMembers [] rest)
      rw [writeText_append, readMembers, skip_cons (by decide)]
      simp only [readText_flatMap]
      rw [skip_cons (by decide)]
      simp only [namedMembers, List.map_nil, hvalue]
      rfl
  | cons m ms ih =>
    have hends := ends_writeMembers (namedMembers (m :: ms)) rest
    rw [writeMembers_namedMembers_cons] at hfuel hends ⊢
    simp only [List.length_cons, List.length_append] at hfuel
    obtain _ | fuel := fuel
    · omega
    · have hnext : readMembers fuel
            (writeText m.1 ++ ':' :: (write m.2 ++ (writeMembers (namedMembers ms) ++ rest))) =
          some ((some m.1, m.2) :: namedMembers ms, rest) :=
        ih (hms m List.mem_cons_self) (fun u hu => hms u (List.mem_cons_of_mem m hu)) (by omega)
      rw [writeText_append, readMembers, skip_cons (by decide)]
      simp only [readText_flatMap]
      rw [skip_cons (by decide)]
      simp only [hv fuel _ (by omega) hends]
      simp only [List.cons_append, List.append_assoc]
      rw [skip_cons (by decide)]
      simp only [hnext, Option.map_some]
      rfl

theorem readValue_members : readValue (fuel + 1) ('\x7b' :: '"' :: cs) =
    (readMembers fuel ('"' :: cs)).map fun r => (.object r.1, r.2) := rfl

theorem readBack_record {ms : List (String × Json)} (h : ∀ m ∈ ms, ReadBack m.2) :
    ReadBack (.record ms) := by
  refine readBack_of_succ fun fuel rest hfuel _ => ?_
  cases ms with
  | nil => rfl
  | cons m ms =>
    rw [write_record_cons] at hfuel ⊢
    simp only [List.length_cons, List.length_append] at hfuel
    have hmembers : readMembers fuel
          (writeText m.1 ++ ':' :: (write m.2 ++ (writeMembers (namedMembers ms) ++ rest))) =
        some ((some m.1, m.2) :: namedMembers ms, rest) :=
      readMembers_writeMembers (h m List.mem_cons_self)
        (fun u hu => h u (List.mem_cons_of_mem m hu)) (by omega)
    simp only [List.cons_append, List.append_assoc]
    rw [writeText_append] at hmembers ⊢
    rw [readValue_members, hmembers, Option.map_some]
    rfl

/-! ### Texts -/

theorem Plain.readBack {v : Json} (h : Plain v) : ReadBack v := by
  induction h with
  | null => exact readBack_null
  | bool b => exact readBack_bool b
  | natural n => exact readBack_natural n
  | text s => exact readBack_text s
  | array _ ih => exact readBack_array ih
  | record _ ih => exact readBack_record ih

/-- A plain value is read back from its text. -/
theorem parse?_render {v : Json} (h : Plain v) : parse? (render v) = some v := by
  unfold parse? render
  rw [String.toList_ofList]
  have hread := h.readBack (2 * (write v).length + 1) [] (by omega) .nil
  rw [List.append_nil] at hread
  rw [hread]
  rfl

end NodeAtlas.Json
