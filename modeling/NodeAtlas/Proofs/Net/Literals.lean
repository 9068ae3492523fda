import NodeAtlas.Net.Host
import NodeAtlas.Proofs.Net.Names

/-!
# Address literals

The text of an address that stands alone is made of digits, dots and colons. As the host of a URL it stands
for the same address: four octets in dotted decimal without zeros in front are read octet by octet, and what
stands between brackets is read as it was before.
-/

namespace NodeAtlas.Net

open NodeAtlas.Text

/-! ## Numbers at the front of a text -/

section Numbers

variable {radix width bound n : Nat} {cs rest : List Char}

theorem exists_takeDigits (radix : Nat) (cs : List Char) :
    ∃ front, cs = front ++ (takeDigits radix cs).2 ∧ (∀ c ∈ front, (digit? radix c).isSome) ∧
      (takeDigits radix cs).1 = front.filterMap (digit? radix) := by
  induction cs with
  | nil => exact ⟨[], rfl, by simp, rfl⟩
  | cons c cs ih =>
    rw [takeDigits]
    cases hc : digit? radix c with
    | none => exact ⟨[], rfl, by simp, rfl⟩
    | some d =>
      obtain ⟨front, hcs, hall, hds⟩ := ih
      refine ⟨c :: front, congrArg (c :: ·) hcs, ?_, ?_⟩
      · intro e he
        rcases List.mem_cons.mp he with rfl | he
        · rw [hc]
          rfl
        · exact hall e he
      · rw [List.filterMap_cons_some hc, hds]

/-- A number is read from digits, and what follows them is left. -/
theorem exists_of_readNumber? (h : readNumber? radix width bound cs = some (n, rest)) :
    ∃ front, cs = front ++ rest ∧ front ≠ [] ∧ (∀ c ∈ front, (digit? radix c).isSome) ∧
      n = digitsValue radix (front.filterMap (digit? radix)) ∧ n < bound := by
  obtain ⟨front, hcs, hall, hds⟩ := exists_takeDigits radix cs
  unfold readNumber? at h
  dsimp only at h
  split at h
  · cases h
  · rename_i hread
    cases h
    simp only [Bool.or_eq_true, not_or, decide_eq_true_eq, Nat.not_lt, Nat.not_le] at hread
    refine ⟨front, hcs, ?_, hall, by rw [hds], hread.2⟩
    rintro rfl
    simp [hds] at hread

theorem digitsValue_of_isDigit (h : ∀ c ∈ cs, isDigit c = true) :
    digitsValue 10 (cs.filterMap (digit? 10)) = Nat.ofDigitChars 10 cs 0 := by
  have hall : ∀ acc, (cs.filterMap (digit? 10)).foldl (fun acc d => acc * 10 + d) acc =
      Nat.ofDigitChars 10 cs acc := by
    induction cs with
    | nil => exact fun acc => rfl
    | cons c cs ih =>
      intro acc
      have hc := digit?_of_isDigit (h c List.mem_cons_self)
      rw [List.filterMap_cons_some hc, List.foldl_cons, ih fun d hd => h d (List.mem_cons_of_mem _ hd),
        Nat.mul_comm acc]
      rfl
  exact hall 0

end Numbers

/-! ## Octets -/

/-- The characters write an octet, and URLs read it so. -/
structure IsOctet (front : List Char) (x : UInt8) : Prop where
  digits : ∀ c ∈ front, isDigit c = true
  parse : Url.Part.parse? front = some (.number x.toNat)

theorem parse?_of_ne_zero {c : Char} (hc : c ≠ '0') (ds : List Char) :
    Url.Part.parse? (c :: ds) = Url.readPart? 10 (c :: ds) := by
  unfold Url.Part.parse?
  split <;> simp_all

theorem readPart?_of_isDigit {ds : List Char} (h : ∀ c ∈ ds, isDigit c = true)
    (hle : Nat.ofDigitChars 10 ds 0 ≤ 0xffffffff) :
    Url.readPart? 10 ds = some (.number (Nat.ofDigitChars 10 ds 0)) := by
  have hall : (ds.all fun c => (digit? 10 c).isSome) = true := by
    rw [List.all_eq_true]
    intro c hc
    rw [digit?_of_isDigit (h c hc)]
    rfl
  rw [Url.readPart?, if_pos hall, readDigits_eq_ok h hle]

theorem exists_of_readOctet? {cs rest : List Char} {x : UInt8}
    (h : readOctet? .strict cs = some (x, rest)) : ∃ front, cs = front ++ rest ∧ IsOctet front x := by
  unfold readOctet? at h
  split at h
  · cases h
  · rename_i n rest' hread
    obtain ⟨front, rfl, hne, hall, hn, hlt⟩ := exists_of_readNumber? hread
    have hdigits : ∀ c ∈ front, isDigit c = true := by
      intro c hc
      obtain ⟨d, hd⟩ := Option.isSome_iff_exists.mp (hall c hc)
      exact isDigit_of_digit? (by decide) hd
    rw [digitsValue_of_isDigit hdigits] at hn
    split at h
    · rename_i hplain
      cases h
      have hvalue : (UInt8.ofNat n).toNat = n := UInt8.toNat_ofNat_of_lt hlt
      refine ⟨front, rfl, hdigits, ?_⟩
      rw [hvalue, hn]
      obtain ⟨c, ds, rfl⟩ := List.exists_cons_of_ne_nil hne
      by_cases hc : c = '0'
      · -- A zero in front is the only digit.
        obtain rfl : ds = [] := by
          subst hc
          simpa [Spelling.strict] using hplain
        subst hc
        rfl
      · rw [parse?_of_ne_zero hc, readPart?_of_isDigit hdigits (by omega)]
    · cases h

/-! ## Four octets -/

theorem eq_cons_of_readChar? {x : Char} {cs rest : List Char} (h : readChar? x cs = some rest) :
    cs = x :: rest := by
  cases cs with
  | nil => cases h
  | cons c cs =>
    rw [readChar?] at h
    split at h
    · cases h
      simp_all
    · cases h

/-- Four octets with dots between them. -/
def dotted (a b c d : List Char) : List Char := a ++ '.' :: (b ++ '.' :: (c ++ '.' :: d))

theorem exists_of_readIpv4? {cs rest : List Char} {ip : Ipv4}
    (h : Ipv4.read? .strict cs = some (ip, rest)) :
    ∃ a b c d, cs = dotted a b c d ++ rest ∧ IsOctet a ip.a ∧ IsOctet b ip.b ∧ IsOctet c ip.c ∧
      IsOctet d ip.d := by
  simp only [Ipv4.read?, Option.bind_eq_bind, Option.bind_eq_some_iff, Prod.exists,
    Option.pure_def, Option.some.injEq, Prod.mk.injEq] at h
  obtain ⟨xa, cs₁, ha, cs₂, h₁, xb, cs₃, hb, cs₄, h₂, xc, cs₅, hc, cs₆, h₃, xd, cs₇, hd, rfl, rfl⟩ := h
  obtain ⟨a, rfl, hxa⟩ := exists_of_readOctet? ha
  obtain rfl := eq_cons_of_readChar? h₁
  obtain ⟨b, rfl, hxb⟩ := exists_of_readOctet? hb
  obtain rfl := eq_cons_of_readChar? h₂
  obtain ⟨c, rfl, hxc⟩ := exists_of_readOctet? hc
  obtain rfl := eq_cons_of_readChar? h₃
  obtain ⟨d, rfl, hxd⟩ := exists_of_readOctet? hd
  exact ⟨a, b, c, d, by simp [dotted], hxa, hxb, hxc, hxd⟩

namespace IsOctet

variable {front : List Char} {x : UInt8}

theorem ne_nil (h : IsOctet front x) : front ≠ [] := by
  rintro rfl
  have hparse := h.parse
  cases hparse

theorem dot_notMem (h : IsOctet front x) : '.' ∉ front := fun hdot =>
  absurd (h.digits '.' hdot) (by decide)

end IsOctet

section Dotted

variable {a b c d : List Char} {ip : Ipv4}

theorem pieces_dotted (ha : '.' ∉ a) (hb : '.' ∉ b) (hc : '.' ∉ c) (hd : '.' ∉ d) :
    pieces '.' (dotted a b c d) = [a, b, c, d] := by
  rw [dotted, pieces_append_sep ha, pieces_append_sep hb, pieces_append_sep hc, pieces_of_notMem hd]

/-- Four octets make up their address. -/
theorem ipv4OfParts?_octets (ip : Ipv4) :
    Url.ipv4OfParts? [ip.a.toNat, ip.b.toNat, ip.c.toNat, ip.d.toNat] = some ip := by
  obtain ⟨a, b, c, d⟩ := ip
  have ha : a.toNat < 256 := a.toNat_lt
  have hb : b.toNat < 256 := b.toNat_lt
  have hc : c.toNat < 256 := c.toNat_lt
  have hd : d.toNat < 256 := d.toNat_lt
  have hfits : ([a.toNat, b.toNat, c.toNat].any fun n => decide (255 < n)) = false := by
    simp only [List.any_cons, List.any_nil, Bool.or_false, Bool.or_eq_false_iff,
      decide_eq_false_iff_not]
    omega
  have hlast : ¬ 256 ≤ d.toNat := by omega
  have hvalue : digitsValue 256 [a.toNat, b.toNat, c.toNat] <<< 8 + d.toNat =
      ((a.toNat * 256 + b.toNat) * 256 + c.toNat) * 256 + d.toNat := by
    simp [digitsValue, Nat.shiftLeft_eq]
  have hparts : Url.ipv4OfParts? [a.toNat, b.toNat, c.toNat, d.toNat] =
      some (.ofNat (((a.toNat * 256 + b.toNat) * 256 + c.toNat) * 256 + d.toNat)) := by
    simp [Url.ipv4OfParts?, ← hvalue, hfits, hlast]
  have octet : ∀ {n : Nat} {x : UInt8}, n % 256 = x.toNat → UInt8.ofNat n = x := by
    intro n x hn
    rw [← UInt8.toNat_inj, UInt8.toNat_ofNat', ← hn]
  rw [hparts, Ipv4.ofNat]
  congr 2
  · exact octet (by omega)
  · exact octet (by omega)
  · exact octet (by omega)
  · exact octet (by omega)

theorem toLower_of_isDigit {x : Char} (h : isDigit x = true) : x.toLower = x := by
  have hcode := isDigit_iff.mp h
  refine of_ascii (P := fun x => isDigit x = true → x.toLower = x) ?_ (by omega) h
  decide

theorem isDigit_or_dot {x : Char} (ha : IsOctet a ip.a) (hb : IsOctet b ip.b) (hc : IsOctet c ip.c)
    (hd : IsOctet d ip.d) (hx : x ∈ dotted a b c d) : isDigit x = true ∨ x = '.' := by
  simp only [dotted, List.mem_append, List.mem_cons] at hx
  rcases hx with hx | rfl | hx | rfl | hx | rfl | hx
  · exact .inl (ha.digits x hx)
  · exact .inr rfl
  · exact .inl (hb.digits x hx)
  · exact .inr rfl
  · exact .inl (hc.digits x hx)
  · exact .inr rfl
  · exact .inl (hd.digits x hx)

theorem isName_of_isDigit {labels : List (List Char)} (h : ∀ l ∈ labels, ∀ x ∈ l, isDigit x = true) :
    Domain.isName labels = true := by
  refine Domain.isName_of_plain ?_ ?_
  · intro l hl x hx
    have hcode := isDigit_iff.mp (h l hl x hx)
    omega
  · intro l hl hprefix
    have hx : 'x' ∈ l := hprefix.subset (by decide)
    exact absurd (h l hl 'x' hx) (by decide)

/-- As the host of a URL, four octets stand for their address. -/
theorem parse_of_dotted {s : String} (hs : s.toList = dotted a b c d) (ha : IsOctet a ip.a)
    (hb : IsOctet b ip.b) (hc : IsOctet c ip.c) (hd : IsOctet d ip.d) :
    Url.Host.parse s = .ok (.v4 ip) := by
  have hname : ∀ x ∈ s.toList, isNameChar x = true := by
    intro x hx
    rcases isDigit_or_dot ha hb hc hd (hs ▸ hx) with hx | rfl
    · simp [isNameChar, isAlphanumeric, hx]
    · rfl
  have hlower : asciiLower s = s := by
    have hsame : ∀ x ∈ s.toList, x.toLower = id x := by
      intro x hx
      rcases isDigit_or_dot ha hb hc hd (hs ▸ hx) with hx | rfl
      · exact toLower_of_isDigit hx
      · rfl
    rw [asciiLower, List.map_congr_left hsame, List.map_id, String.ofList_toList]
  have hne : s ≠ "" := by
    rintro rfl
    simp [dotted] at hs
  have hpieces : pieces '.' s.toList = [a, b, c] ++ [d] := by
    rw [hs, pieces_dotted ha.dot_notMem hb.dot_notMem hc.dot_notMem hd.dot_notMem]
    rfl
  have hisName : Domain.isName ([a, b, c] ++ [d]) = true := by
    refine isName_of_isDigit ?_
    simp only [List.cons_append, List.nil_append, List.forall_mem_cons]
    exact ⟨ha.digits, hb.digits, hc.digits, hd.digits, by simp⟩
  have hparts : Url.partNumbers? ([a, b, c] ++ [d]) =
      some [ip.a.toNat, ip.b.toNat, ip.c.toNat, ip.d.toNat] := by
    simp [Url.partNumbers?, ha.parse, hb.parse, hc.parse, hd.parse]
  rw [Url.parse_of_isNameChar hne hname, hlower, if_pos (by rw [hpieces, hisName]),
    if_pos ((Url.endsInNumber_iff hpieces hd.ne_nil).mpr (.inl hd.digits)),
    Url.hostLabels_of_pieces hpieces hd.ne_nil,
    hparts, Option.bind_some, ipv4OfParts?_octets]

end Dotted

/-! ## Groups -/

/-- The characters of address literals. -/
def isLiteralChar (c : Char) : Bool := (digit? 16 c).isSome || c == ':' || c == '.'

/-- The second text is what is left of the first behind characters of literals. -/
def Leaves (cs rest : List Char) : Prop :=
  ∃ front, cs = front ++ rest ∧ ∀ c ∈ front, isLiteralChar c = true

namespace Leaves

variable {cs ds rest : List Char}

theorem refl (cs : List Char) : Leaves cs cs := ⟨[], rfl, by simp⟩

theorem trans (h : Leaves cs ds) (h' : Leaves ds rest) : Leaves cs rest := by
  obtain ⟨front, rfl, hfront⟩ := h
  obtain ⟨front', rfl, hfront'⟩ := h'
  refine ⟨front ++ front', (List.append_assoc ..).symm, ?_⟩
  intro c hc
  rcases List.mem_append.mp hc with hc | hc
  · exact hfront c hc
  · exact hfront' c hc

theorem of_readChar? (h : readChar? ':' cs = some rest) : Leaves cs rest :=
  ⟨[':'], eq_cons_of_readChar? h, by simp [isLiteralChar]⟩

theorem of_readNumber? {n : Nat} (h : readNumber? 16 4 65536 cs = some (n, rest)) :
    Leaves cs rest := by
  obtain ⟨front, hcs, -, hall, -⟩ := exists_of_readNumber? h
  exact ⟨front, hcs, fun c hc => by simp [isLiteralChar, hall c hc]⟩

theorem of_readIpv4? {ip : Ipv4} (h : Ipv4.read? .strict cs = some (ip, rest)) : Leaves cs rest := by
  obtain ⟨a, b, c, d, hcs, ha, hb, hc, hd⟩ := exists_of_readIpv4? h
  refine ⟨_, hcs, fun x hx => ?_⟩
  rcases isDigit_or_dot ha hb hc hd hx with hx | rfl
  · have hcode := isDigit_iff.mp hx
    refine of_ascii (P := fun x => isDigit x = true → isLiteralChar x = true) ?_ (by omega) hx
    decide
  · rfl

theorem of_readGroups (room : Nat) (first : Bool) (cs : List Char) :
    Leaves cs (Ipv6.readGroups .strict room first cs).rest := by
  induction room generalizing first cs with
  | zero => exact refl cs
  | succ room ih =>
    unfold Ipv6.readGroups
    cases hbody : (if first then some cs else readChar? ':' cs) with
    | none => exact refl cs
    | some body =>
      have hfront : Leaves cs body := by
        cases first with
        | true =>
          cases hbody
          exact refl cs
        | false => exact of_readChar? hbody
      dsimp only
      cases hdotted : (if 0 < room then Ipv4.read? .strict body else none) with
      | some r =>
        obtain ⟨v4, rest⟩ := r
        split at hdotted
        · exact hfront.trans (of_readIpv4? hdotted)
        · cases hdotted
      | none =>
        dsimp only
        cases hgroup : readNumber? 16 4 65536 body with
        | none => exact refl cs
        | some r =>
          obtain ⟨g, rest⟩ := r
          exact (hfront.trans (of_readNumber? hgroup)).trans (ih false rest)

theorem of_readIpv6? {ip : Ipv6} (h : Ipv6.read? .strict cs = some (ip, rest)) : Leaves cs rest := by
  have hhead := of_readGroups 8 true cs
  unfold Ipv6.read? at h
  simp only [Option.bind_eq_bind, Option.pure_def] at h
  split at h
  · obtain ⟨ip', -, hip⟩ := Option.bind_eq_some_iff.mp h
    cases hip
    exact hhead
  · split at h
    · cases h
    · obtain ⟨cs₁, h₁, h⟩ := Option.bind_eq_some_iff.mp h
      obtain ⟨cs₂, h₂, h⟩ := Option.bind_eq_some_iff.mp h
      obtain ⟨ip', -, hip⟩ := Option.bind_eq_some_iff.mp h
      cases hip
      exact ((hhead.trans (of_readChar? h₁)).trans (of_readChar? h₂)).trans (of_readGroups _ _ _)

end Leaves

/-! ## Addresses -/

/-- The address as the host of a URL. -/
def Url.Host.ofAddress : Address → Url.Host
  | .v4 ip => .v4 ip
  | .v6 ip => .v6 ip

/-- What an address that stands alone was read from. -/
theorem read?_of_parse? {host : String} {ip : Address} (h : Address.parse? host = some ip) :
    (∃ v4, ip = .v4 v4 ∧ Ipv4.read? .strict host.toList = some (v4, [])) ∨
      ∃ v6, ip = .v6 v6 ∧ Ipv6.read? .strict host.toList = some (v6, []) := by
  unfold Address.parse? at h
  split at h
  · rename_i ip' hread
    cases h
    unfold Address.read? at hread
    split at hread
    · rename_i v4 rest hv4
      cases hread
      exact .inl ⟨v4, rfl, hv4⟩
    · obtain ⟨⟨v6, rest⟩, hv6, heq⟩ := Option.map_eq_some_iff.mp hread
      cases heq
      exact .inr ⟨v6, rfl, hv6⟩
  · cases h

theorem isLiteralChar_of_parse? {host : String} {ip : Address} (h : Address.parse? host = some ip) :
    ∀ c ∈ host.toList, isLiteralChar c = true := by
  have hleaves : Leaves host.toList [] := by
    rcases read?_of_parse? h with ⟨v4, -, hread⟩ | ⟨v6, -, hread⟩
    · exact .of_readIpv4? hread
    · exact .of_readIpv6? hread
  obtain ⟨front, hfront, hall⟩ := hleaves
  rwa [hfront, List.append_nil]

/-- What stands between brackets is read as an address. -/
theorem parse_of_brackets {host : String} {ip : Ipv6}
    (h : Ipv6.read? .strict host.toList = some (ip, [])) :
    Url.Host.parse ("[" ++ host ++ "]") = .ok (.v6 ip) := by
  have hchars : ("[" ++ host ++ "]").toList = '[' :: (host.toList ++ [']']) := by simp
  unfold Url.Host.parse
  rw [hchars]
  simp only [List.getLast?_concat, List.dropLast_concat, h]

theorem hostAuthority_of_v6 {host : String} {ip : Ipv6} (h : Address.parse? host = some (.v6 ip)) :
    hostAuthority host = "[" ++ host ++ "]" := by
  unfold hostAuthority
  rw [h]

theorem hostAuthority_eq_self {host : String} (h : ∀ ip, Address.parse? host ≠ some (.v6 ip)) :
    hostAuthority host = host := by
  unfold hostAuthority
  split
  · rename_i ip hip
    exact absurd hip (h ip)
  · rfl

/-- An address that stands alone is the host of the URL that it is put into. -/
theorem parse_hostAuthority {host : String} {ip : Address} (h : Address.parse? host = some ip) :
    Url.Host.parse (hostAuthority host) = .ok (.ofAddress ip) := by
  rcases read?_of_parse? h with ⟨v4, rfl, hread⟩ | ⟨v6, rfl, hread⟩
  · obtain ⟨a, b, c, d, hs, ha, hb, hc, hd⟩ := exists_of_readIpv4? hread
    rw [List.append_nil] at hs
    rw [hostAuthority_eq_self (by simp [h])]
    exact parse_of_dotted hs ha hb hc hd
  · rw [hostAuthority_of_v6 h]
    exact parse_of_brackets hread

end NodeAtlas.Net
