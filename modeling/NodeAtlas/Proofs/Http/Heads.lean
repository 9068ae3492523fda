import NodeAtlas.Credentials
import NodeAtlas.Http.Message
import NodeAtlas.Proofs.Text.Bytes
import NodeAtlas.Proofs.Text.Trim

/-!
# Heads of requests

The head of a request is written with one field to a line, and ends with an empty line. The value of a
field may hold every byte from the space up apart from DEL. Blanks at its ends get lost, and a line feed
would end it. A session token has none of all these, so it is read back as it was written, along with what
stands beside it.
-/

namespace NodeAtlas.Http

open NodeAtlas.Text

/-! ## Fields -/

/-- The byte may stand in the name of a field: it is visible, and no colon. -/
def isNameByte (b : UInt8) : Bool := 0x21 ≤ b && b < 0x7f && b != 0x3a

/-- The byte may stand in the value of a field. -/
def isValueByte (b : UInt8) : Bool := 0x20 ≤ b && b != 0x7f

/-- A space or a tab. -/
def isPadding (b : UInt8) : Bool := b == 0x20 || b == 0x09

/-- Drops the blanks at both ends of a value. -/
def strip (value : List UInt8) : List UInt8 := (value.dropWhile isPadding).rdropWhile isPadding

/-- A field of a head. -/
structure Field where
  name : List UInt8
  value : List UInt8
  deriving DecidableEq, Repr

namespace Field

/-- A field with a name and a value in UTF-8. -/
def ofTexts (name value : String) : Field := ⟨bytes name, bytes value⟩

/-- The field can be written. -/
def isLegal (f : Field) : Bool :=
  !f.name.isEmpty && f.name.all isNameByte && f.value.all isValueByte

/-- No blank at the ends of the value gets lost. -/
def isStripped (f : Field) : Bool := strip f.value == f.value

/-- The line of a field, without its end. -/
def line (f : Field) : List UInt8 := f.name ++ 0x3a :: 0x20 :: f.value

/-- Reads a field from its line. -/
def read? (line : List UInt8) : Option Field :=
  match line.dropWhile (· != 0x3a) with
  | [] => none
  | _ :: value =>
    let f : Field := ⟨line.takeWhile (· != 0x3a), strip value⟩
    if f.isLegal then some f else none

end Field

/-- The fields of a request, apart from those that every request has. -/
def Request.fields (q : Request) : List Field :=
  (if q.isPost then
    [.ofTexts "content-type" "application/json", .ofTexts "accept" "application/json"]
  else []) ++ q.authorization.toList.map (.ofTexts "authorization")

/-- All fields of the request can be written. -/
def Request.isWritable (q : Request) : Bool := q.fields.all Field.isLegal

/-! ## Heads -/

/-- Writes the fields of a head and the empty line at its end. -/
def writeHead (fs : List Field) : List UInt8 :=
  fs.flatMap (fun f => f.line ++ [0x0d, 0x0a]) ++ [0x0d, 0x0a]

/-- The line without a carriage return at its end. -/
def chomp (line : List UInt8) : List UInt8 :=
  if line.getLast? = some 0x0d then line.dropLast else line

/-- Reads the fields that are left of a head, in the middle of a line, and leaves what follows the head.
A line feed ends a line, be there a carriage return or not. -/
def readFrom (line : List UInt8) : List UInt8 → Option (List Field × List UInt8)
  | [] => none
  | b :: bs =>
    if b = 0x0a then
      if chomp line = [] then some ([], bs)
      else
        match Field.read? (chomp line), readFrom [] bs with
        | some f, some (fs, rest) => some (f :: fs, rest)
        | _, _ => none
    else readFrom (line ++ [b]) bs

/-- Reads the fields of a head, and leaves what follows it. -/
def readHead (bs : List UInt8) : Option (List Field × List UInt8) := readFrom [] bs

/-! ## Reading back -/

variable {f : Field} {fs : List Field} {line bs : List UInt8}

theorem readFrom_append (h : 0x0a ∉ bs) (rest : List UInt8) :
    readFrom line (bs ++ rest) = readFrom (line ++ bs) rest := by
  induction bs generalizing line with
  | nil => rw [List.nil_append, List.append_nil]
  | cons b bs ih =>
    rw [List.mem_cons, not_or] at h
    have hb : b ≠ 0x0a := Ne.symm h.1
    rw [List.cons_append, readFrom, if_neg hb, ih h.2, List.append_assoc, List.singleton_append]

theorem chomp_concat (line : List UInt8) : chomp (line ++ [0x0d]) = line := by
  unfold chomp
  rw [List.getLast?_concat, if_pos rfl, List.dropLast_concat]

namespace Field

theorem ne_of_isNameByte {b : UInt8} (h : isNameByte b = true) : b ≠ 0x3a ∧ b ≠ 0x0a := by
  constructor
  · rintro rfl
    exact absurd h (by decide)
  · rintro rfl
    exact absurd h (by decide)

theorem ne_of_isValueByte {b : UInt8} (h : isValueByte b = true) : b ≠ 0x0a := by
  rintro rfl
  exact absurd h (by decide)

theorem isLegal_iff : f.isLegal = true ↔ f.name ≠ [] ∧ (∀ b ∈ f.name, isNameByte b = true) ∧
    ∀ b ∈ f.value, isValueByte b = true := by
  unfold isLegal
  rw [Bool.and_eq_true, Bool.and_eq_true, List.all_eq_true, List.all_eq_true, Bool.not_eq_true',
    List.isEmpty_eq_false_iff, and_assoc]

theorem line_ne_nil : f.line ≠ [] := by
  unfold line
  exact List.append_ne_nil_of_right_ne_nil _ (List.cons_ne_nil _ _)

theorem notMem_line (h : f.isLegal = true) : 0x0a ∉ f.line := by
  obtain ⟨-, hname, hvalue⟩ := isLegal_iff.mp h
  intro hmem
  simp only [line, List.mem_append, List.mem_cons] at hmem
  rcases hmem with hmem | hcolon | hspace | hmem
  · exact (ne_of_isNameByte (hname _ hmem)).2 rfl
  · exact absurd hcolon (by decide)
  · exact absurd hspace (by decide)
  · exact ne_of_isValueByte (hvalue _ hmem) rfl

theorem read?_line (h : f.isLegal = true) (hstrip : f.isStripped = true) :
    read? f.line = some f := by
  obtain ⟨-, hname, -⟩ := isLegal_iff.mp h
  have hkeep : ∀ b ∈ f.name, (b != 0x3a) = true := fun b hb =>
    bne_iff_ne.mpr (ne_of_isNameByte (hname b hb)).1
  have hfront : f.line.takeWhile (· != 0x3a) = f.name := by
    rw [line, List.takeWhile_append_of_pos hkeep, List.takeWhile_cons_of_neg (by decide),
      List.append_nil]
  have hback : f.line.dropWhile (· != 0x3a) = 0x3a :: 0x20 :: f.value := by
    rw [line, List.dropWhile_append_of_pos hkeep, List.dropWhile_cons_of_neg (by decide)]
  have hvalue : strip (0x20 :: f.value) = f.value := by
    have hspace : strip (0x20 :: f.value) = strip f.value := by
      unfold strip
      rw [List.dropWhile_cons_of_pos (by decide)]
    rw [hspace]
    exact beq_iff_eq.mp hstrip
  unfold read?
  rw [hback]
  simp only [hfront, hvalue]
  exact if_pos h

end Field

/-- A head is read back as it was written, whatever follows it. -/
theorem readHead_writeHead (h : ∀ f ∈ fs, f.isLegal = true ∧ f.isStripped = true)
    (rest : List UInt8) : readHead (writeHead fs ++ rest) = some (fs, rest) := by
  unfold readHead
  induction fs with
  | nil =>
    change readFrom [0x0d] (0x0a :: rest) = _
    rfl
  | cons f fs ih =>
    obtain ⟨⟨hlegal, hstrip⟩, hrest⟩ := List.forall_mem_cons.mp h
    have hwrite : writeHead (f :: fs) ++ rest =
        (f.line ++ [0x0d]) ++ 0x0a :: (writeHead fs ++ rest) := by
      simp [writeHead]
    have hend : 0x0a ∉ f.line ++ [0x0d] := by
      rw [List.mem_append, not_or]
      exact ⟨Field.notMem_line hlegal, by decide⟩
    rw [hwrite, readFrom_append hend, List.nil_append, readFrom, if_pos rfl, chomp_concat,
      if_neg Field.line_ne_nil, Field.read?_line hlegal hstrip, ih hrest]

/-! ## Tokens -/

/-- Blank and control characters are all that a token must not have. -/
theorem forall_of_validateToken {token : String} (h : validateToken token = .ok ()) :
    ∀ c ∈ token.toList, isBlank c = false ∧ isControl c = false := by
  unfold validateToken at h
  split at h
  · cases h
  · split at h
    · cases h
    · rename_i hclean
      intro c hc
      rw [Bool.not_eq_true, List.any_eq_false] at hclean
      have hmark := hclean c hc
      rw [Bool.not_eq_true, Bool.or_eq_false_iff] at hmark
      exact hmark

theorem code_bounds {c : Char} (hblank : isBlank c = false) (hcontrol : isControl c = false) :
    0x21 ≤ c.toNat ∧ c.toNat ≠ 0x7f := by
  have hspace : c.toNat ≠ 0x20 := by
    intro hc
    unfold isBlank at hblank
    rw [hc] at hblank
    exact absurd hblank (by decide)
  simp only [isControl, Bool.or_eq_false_iff, Bool.and_eq_false_iff, decide_eq_false_iff_not]
    at hcontrol
  omega

/-- Every byte of a token is beyond the space, and none is DEL. -/
theorem byte_bounds {token : String} (h : validateToken token = .ok ()) :
    ∀ b ∈ bytes token, 0x21 ≤ b ∧ b ≠ 0x7f := by
  intro b hb
  have hbounds : 0x21 ≤ b.toNat ∧ b.toNat ≠ 0x7f := by
    rw [bytes_eq] at hb
    obtain ⟨c, hc, hb⟩ := List.mem_flatMap.mp hb
    by_cases hascii : c.toNat < 128
    · obtain ⟨hblank, hcontrol⟩ := forall_of_validateToken h c hc
      have hcode := code_bounds hblank hcontrol
      rw [utf8EncodeChar_of_lt hascii, List.mem_singleton] at hb
      rw [hb, UInt8.toNat_ofNat']
      omega
    · have hhigh := le_of_mem_utf8EncodeChar (Nat.le_of_not_lt hascii) hb
      omega
  refine ⟨UInt8.le_iff_toNat_le.mpr hbounds.1, ?_⟩
  rintro rfl
  exact hbounds.2 rfl

theorem strip_eq_self (h : ∀ b ∈ bs, isPadding b = false) : strip bs = bs := by
  have hfront : bs.dropWhile isPadding = bs :=
    dropWhile_eq_self_iff_head?.mpr fun b hb => h b (List.mem_of_mem_head? hb)
  have hback : bs.rdropWhile isPadding = bs :=
    rdropWhile_eq_self_iff_getLast?.mpr fun b hb => h b (List.mem_of_mem_getLast? hb)
  rw [strip, hfront, hback]

theorem isValueByte_of_bounds {b : UInt8} (h : 0x21 ≤ b ∧ b ≠ 0x7f) :
    isValueByte b = true ∧ isPadding b = false := by
  obtain ⟨hlow, hdelete⟩ := h
  have hspace : 0x20 ≤ b := UInt8.le_trans (by decide) hlow
  have hblank : b ≠ 0x20 := by
    rintro rfl
    exact absurd hlow (by decide)
  have htab : b ≠ 0x09 := by
    rintro rfl
    exact absurd hlow (by decide)
  simp [isValueByte, isPadding, hspace, hdelete, hblank, htab]

/-- A token stands in its field as it is. -/
theorem authorization_of_validateToken {token : String} (h : validateToken token = .ok ()) :
    (Field.ofTexts "authorization" token).isLegal = true ∧
      (Field.ofTexts "authorization" token).isStripped = true := by
  have hbytes : ∀ b ∈ bytes token, isValueByte b = true ∧ isPadding b = false :=
    fun b hb => isValueByte_of_bounds (byte_bounds h b hb)
  have hname : (!(bytes "authorization").isEmpty && (bytes "authorization").all isNameByte) = true := by
    decide
  have hvalue : (bytes token).all isValueByte = true :=
    List.all_eq_true.mpr fun b hb => (hbytes b hb).1
  constructor
  · exact Bool.and_eq_true_iff.mpr ⟨hname, hvalue⟩
  · exact beq_iff_eq.mpr (strip_eq_self fun b hb => (hbytes b hb).2)

theorem fields_of_validateToken {q : Request}
    (h : ∀ token, q.authorization = some token → validateToken token = .ok ()) :
    ∀ f ∈ q.fields, f.isLegal = true ∧ f.isStripped = true := by
  intro f hf
  unfold Request.fields at hf
  rcases List.mem_append.mp hf with hf | hf
  · have hjson : ∀ f ∈ [Field.ofTexts "content-type" "application/json",
        Field.ofTexts "accept" "application/json"], f.isLegal = true ∧ f.isStripped = true := by
      decide
    split at hf
    · exact hjson f hf
    · cases hf
  · obtain ⟨token, htoken, rfl⟩ := List.mem_map.mp hf
    exact authorization_of_validateToken (h token (Option.mem_toList.mp htoken))

theorem isWritable_of_validateToken {q : Request}
    (h : ∀ token, q.authorization = some token → validateToken token = .ok ()) :
    q.isWritable = true :=
  List.all_eq_true.mpr fun f hf => (fields_of_validateToken h f hf).1

end NodeAtlas.Http
