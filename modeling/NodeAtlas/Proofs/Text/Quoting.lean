import Mathlib.Data.List.TakeDrop
import NodeAtlas.Text.Shown

/-!
# Quoted texts

No quoted text begins another one: what stands between the quotes, and where it ends, can be read off a
text that goes on after the closing quote.
-/

namespace NodeAtlas.Text

/-! ## Characters -/

/-- The characters that are written as a sign after a backslash. -/
def escapes : List (Char × Char) :=
  [('\x00', '0'), ('\t', 't'), ('\r', 'r'), ('\n', 'n'), ('"', '"'), ('\\', '\\')]

/-- The ways to write a character inside a quoted text. -/
inductive Written (c : Char) : List Char → Prop where
  | sign (s : Char) (h : (c, s) ∈ escapes) : Written c ['\\', s]
  | code : Written c ('\\' :: 'u' :: '\x7b' :: (Nat.toDigits 16 c.toNat ++ ['\x7d']))
  | plain (hquote : c ≠ '"') (hslash : c ≠ '\\') : Written c [c]

theorem written_quoteChar (c : Char) : Written c (quoteChar c).toList := by
  unfold quoteChar
  split
  · exact .sign '0' (by decide)
  · exact .sign 't' (by decide)
  · exact .sign 'r' (by decide)
  · exact .sign 'n' (by decide)
  · exact .sign '"' (by decide)
  · exact .sign '\\' (by decide)
  · rename_i hquote hslash
    split
    · have hcode : ("\\u\x7b" ++ hexDigits c.toNat ++ "\x7d").toList =
          '\\' :: 'u' :: '\x7b' :: (Nat.toDigits 16 c.toNat ++ ['\x7d']) := by
        simp [hexDigits]
      rw [hcode]
      exact .code
    · have hplain : c.toString.toList = [c] := by simp
      rw [hplain]
      exact .plain hquote hslash

theorem toDigits_eq_append (n : Nat) :
    Nat.toDigits 16 n =
      (if n < 16 then [] else Nat.toDigits 16 (n / 16)) ++ [(n % 16).digitChar] := by
  rw [Nat.toDigits_eq_if (by decide)]
  split
  · rename_i hlt
    rw [Nat.mod_eq_of_lt hlt, List.nil_append]
  · rfl

theorem digitChar_inj : ∀ a < 16, ∀ b < 16, a.digitChar = b.digitChar → a = b := by
  decide

theorem digitChar_ne_brace : ∀ a < 16, a.digitChar ≠ '\x7d' := by
  decide

theorem toDigits_inj {n m : Nat} (h : Nat.toDigits 16 n = Nat.toDigits 16 m) : n = m := by
  induction n using Nat.strongRecOn generalizing m with
  | ind n ih =>
    rw [toDigits_eq_append n, toDigits_eq_append m] at h
    -- The last digit gives the remainder, and the digits before it the quotient.
    obtain ⟨hfront, hlast⟩ := List.append_inj' h rfl
    have hmod : n % 16 = m % 16 :=
      digitChar_inj _ (Nat.mod_lt n (by decide)) _ (Nat.mod_lt m (by decide))
        (List.singleton_inj.mp hlast)
    have hdiv : n / 16 = m / 16 := by
      split at hfront <;> split at hfront
      · omega
      · exact absurd hfront.symm Nat.toDigits_ne_nil
      · exact absurd hfront Nat.toDigits_ne_nil
      · exact ih (n / 16) (by omega) hfront
    omega

theorem brace_notMem_toDigits (n : Nat) : '\x7d' ∉ Nat.toDigits 16 n := by
  induction n using Nat.strongRecOn with
  | ind n ih =>
    rw [toDigits_eq_append n, List.mem_append, List.mem_singleton, not_or]
    refine ⟨?_, (digitChar_ne_brace _ (Nat.mod_lt n (by decide))).symm⟩
    split
    · exact List.not_mem_nil
    · exact ih (n / 16) (by omega)

/-- What comes before the first stop can be read off. -/
theorem before_stop_inj {α : Type} {stop : α} {a b t t' : List α} (ha : stop ∉ a) (hb : stop ∉ b)
    (h : a ++ stop :: t = b ++ stop :: t') : a = b := by
  rcases List.append_eq_append_iff.mp h with ⟨r, hr, hstop⟩ | ⟨r, hr, hstop⟩
  · cases r with
    | nil => simpa using hr.symm
    | cons x r =>
      obtain ⟨rfl, -⟩ := List.cons.inj hstop
      exact absurd (hr ▸ List.mem_append_right a List.mem_cons_self) hb
  · cases r with
    | nil => simpa using hr
    | cons x r =>
      obtain ⟨rfl, -⟩ := List.cons.inj hstop
      exact absurd (hr ▸ List.mem_append_right b List.mem_cons_self) ha

theorem escapes_inj : ∀ x ∈ escapes, ∀ y ∈ escapes, x.2 = y.2 → x.1 = y.1 := by
  decide

theorem escapes_ne_code : ∀ x ∈ escapes, x.2 ≠ 'u' := by
  decide

/-- The first character of a text inside quotes can be read off. -/
theorem Written.inj {c c' : Char} {w w' t t' : List Char} (hw : Written c w) (hw' : Written c' w')
    (h : w ++ t = w' ++ t') : c = c' := by
  -- Two ways that are not the same already differ at the backslash or right after it.
  cases hw with
  | sign s hs =>
    cases hw' with
    | sign s' hs' =>
      simp only [List.cons_append, List.cons.injEq, true_and] at h
      exact escapes_inj _ hs _ hs' h.1
    | code =>
      simp only [List.cons_append, List.cons.injEq, true_and] at h
      exact absurd h.1 (escapes_ne_code _ hs)
    | plain hquote hslash =>
      simp only [List.cons_append, List.cons.injEq] at h
      exact absurd h.1.symm hslash
  | code =>
    cases hw' with
    | sign s' hs' =>
      simp only [List.cons_append, List.cons.injEq, true_and] at h
      exact absurd h.1.symm (escapes_ne_code _ hs')
    | code =>
      simp only [List.cons_append, List.cons.injEq, true_and, List.append_assoc,
        List.nil_append] at h
      have hdigits := before_stop_inj (brace_notMem_toDigits _) (brace_notMem_toDigits _) h
      exact Char.toNat_inj.mp (toDigits_inj hdigits)
    | plain hquote hslash =>
      simp only [List.cons_append, List.cons.injEq] at h
      exact absurd h.1.symm hslash
  | plain hquote hslash =>
    cases hw' with
    | sign s' hs' =>
      simp only [List.cons_append, List.cons.injEq] at h
      exact absurd h.1 hslash
    | code =>
      simp only [List.cons_append, List.cons.injEq] at h
      exact absurd h.1 hslash
    | plain hquote' hslash' =>
      simp only [List.cons_append, List.cons.injEq] at h
      exact h.1

/-- No character is written with a quote in front. -/
theorem Written.ne_quote {c : Char} {w t t' : List Char} (hw : Written c w) : w ++ t ≠ '"' :: t' := by
  intro h
  cases hw with
  | sign s hs => exact absurd (List.cons.inj h).1 (by decide)
  | code => exact absurd (List.cons.inj h).1 (by decide)
  | plain hquote hslash => exact hquote (List.cons.inj h).1

/-! ## Texts -/

theorem flatMap_quoteChar_inj {cs cs' t t' : List Char}
    (h : cs.flatMap (fun c => (quoteChar c).toList) ++ '"' :: t =
      cs'.flatMap (fun c => (quoteChar c).toList) ++ '"' :: t') : cs = cs' ∧ t = t' := by
  induction cs generalizing cs' with
  | nil =>
    cases cs' with
    | nil => exact ⟨rfl, (List.cons.inj h).2⟩
    | cons c' cs' =>
      rw [List.flatMap_cons, List.append_assoc] at h
      exact absurd h.symm (written_quoteChar c').ne_quote
  | cons c cs ih =>
    rw [List.flatMap_cons, List.append_assoc] at h
    cases cs' with
    | nil => exact absurd h (written_quoteChar c).ne_quote
    | cons c' cs' =>
      rw [List.flatMap_cons, List.append_assoc] at h
      obtain rfl := (written_quoteChar c).inj (written_quoteChar c') h
      obtain ⟨rfl, rfl⟩ := ih (List.append_cancel_left h)
      exact ⟨rfl, rfl⟩

theorem toList_quoted (s : String) :
    (quoted s).toList = '"' :: (s.toList.flatMap (fun c => (quoteChar c).toList) ++ ['"']) := by
  simp [quoted, String.toList_join, List.flatMap_map]

/-- A quoted text, and what comes after it, can be read off the whole. -/
theorem quoted_append_inj {s s' t t' : String} (h : quoted s ++ t = quoted s' ++ t') :
    s = s' ∧ t = t' := by
  have hlist := congrArg String.toList h
  rw [String.toList_append, String.toList_append, toList_quoted, toList_quoted] at hlist
  simp only [List.cons_append, List.append_assoc, List.nil_append] at hlist
  obtain ⟨hs, ht⟩ := flatMap_quoteChar_inj (List.cons.inj hlist).2
  exact ⟨String.toList_inj.mp hs, String.toList_inj.mp ht⟩

/-! ## Records and lists -/

/-- A text between two others can be read off if it is quoted. -/
theorem quoted_between_inj {a b s s' t t' : String}
    (h : a ++ quoted s ++ b ++ t = a ++ quoted s' ++ b ++ t') : s = s' ∧ t = t' := by
  simp only [String.append_assoc] at h
  obtain ⟨rfl, hrest⟩ := quoted_append_inj ((String.append_right_inj a).mp h)
  exact ⟨rfl, (String.append_right_inj b).mp hrest⟩

/-- The value of the second field of a record stands between two texts that do not depend on it. -/
theorem exists_shownRecord_eq (name : String) (first : String × String) (field : String)
    (rest : List (String × String)) :
    ∃ a b, ∀ value, shownRecord name (first :: (field, quoted value) :: rest) =
      a ++ quoted value ++ b := by
  refine ⟨name ++ " \x7b " ++ shownField first ++ ", " ++ field ++ ": ",
    (if rest = [] then "" else ", " ++ ", ".intercalate (rest.map shownField)) ++ " \x7d",
    fun value => ?_⟩
  have hfield : shownField (field, quoted value) = field ++ ": " ++ quoted value := rfl
  rw [shownRecord, List.map_cons, List.map_cons, String.intercalate_cons_cons, hfield]
  cases rest with
  | nil => simp [String.append_assoc]
  | cons x rest => simp [String.append_assoc, String.intercalate_cons_cons]

/-- A list of items can be read off with what comes after it, if every item can. -/
theorem intercalate_append_inj {α : Type} {R : α → α → Prop} {f : α → String} (sep : String)
    (hf : ∀ x y t t', R x y → f x ++ t = f y ++ t' → x = y ∧ t = t') {xs ys : List α}
    (hR : List.Forall₂ R xs ys) {t t' : String}
    (h : sep.intercalate (xs.map f) ++ t = sep.intercalate (ys.map f) ++ t') :
    xs = ys ∧ t = t' := by
  induction hR with
  | nil => exact ⟨rfl, by simpa using h⟩
  | @cons x y xs ys hxy hrest ih =>
    cases hrest with
    | nil =>
      simp only [List.map_cons, List.map_nil, String.intercalate_singleton] at h
      obtain ⟨rfl, rfl⟩ := hf x y t t' hxy h
      exact ⟨rfl, rfl⟩
    | cons hnext hrest =>
      simp only [List.map_cons, String.intercalate_cons_cons, String.append_assoc] at h ih
      obtain ⟨rfl, hsep⟩ := hf x y _ _ hxy h
      obtain ⟨htail, rfl⟩ := ih ((String.append_right_inj sep).mp hsep)
      rw [htail]
      exact ⟨rfl, rfl⟩

end NodeAtlas.Text
