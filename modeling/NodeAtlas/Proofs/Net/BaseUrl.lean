import NodeAtlas.Endpoint
import NodeAtlas.Proofs.Net.Authorities
import NodeAtlas.Proofs.Net.Literals

/-!
# Base addresses

A host that is accepted is the text of an address, or labels with dots between them. The base address of its
endpoint leads to that address, or to that name in lower case. There is none if a label that begins with
`xn--` does not stand for letters, and nothing is said of names whose last label is written like a number.
-/

namespace NodeAtlas.Net

open NodeAtlas.Text

/-! ## Accepted hosts -/

theorem of_validateLabel {label : String} (h : validateLabel label = .ok ()) :
    label.toList ≠ [] ∧ ∀ c ∈ label.toList, isNameChar c = true := by
  unfold validateLabel at h
  dsimp only at h
  split_ifs at h with hsize hchars hends
  refine ⟨?_, fun c hc => ?_⟩
  · rintro hnil
    simp [hnil] at hsize
  · simp only [Bool.not_eq_true', Bool.not_eq_false, List.all_eq_true] at hchars
    rw [isNameChar, hchars c hc, Bool.true_or]

theorem validateLabel_of_mem {labels : List String} (h : validateLabels labels = .ok ()) :
    ∀ l ∈ labels, validateLabel l = .ok () := by
  induction labels with
  | nil => simp
  | cons l ls ih =>
    cases hl : validateLabel l with
    | error fault => simp [validateLabels, hl] at h
    | ok u =>
      rw [validateLabels, hl] at h
      rw [List.forall_mem_cons]
      exact ⟨hl, ih h⟩

/-- The labels of a name in lower case. -/
def lowerLabels (host : String) : List (List Char) := pieces '.' (asciiLower host).toList

section Accepted

variable {host : String}

theorem parse?_or_labels (h : validateHost host = .ok ()) :
    (∃ ip, Address.parse? host = some ip) ∨
      (Address.parse? host = none ∧ validateLabels (split '.' host) = .ok ()) := by
  unfold validateHost at h
  split_ifs at h with hempty haddress hlength
  · exact .inl (Option.isSome_iff_exists.mp haddress)
  · exact .inr ⟨by simpa using haddress, h⟩

theorem of_mem_pieces (h : validateLabels (split '.' host) = .ok ()) :
    ∀ l ∈ pieces '.' host.toList, l ≠ [] ∧ ∀ c ∈ l, isNameChar c = true := by
  intro l hl
  have hlabel := of_validateLabel (validateLabel_of_mem h _ (List.mem_map_of_mem hl))
  rwa [String.toList_ofList] at hlabel

theorem isNameChar_of_labels (h : validateLabels (split '.' host) = .ok ()) :
    ∀ c ∈ host.toList, isNameChar c = true := by
  intro c hc
  by_cases hdot : c = '.'
  · rw [hdot]
    rfl
  · have hmem : c ∈ (pieces '.' host.toList).flatten := by
      rw [flatten_pieces, List.mem_filter]
      exact ⟨hc, by simpa using hdot⟩
    obtain ⟨l, hl, hcl⟩ := List.mem_flatten.mp hmem
    exact (of_mem_pieces h l hl).2 c hcl

theorem ne_empty_of_labels (h : validateLabels (split '.' host) = .ok ()) : host ≠ "" := by
  rintro rfl
  exact (of_mem_pieces h [] List.mem_cons_self).1 rfl

/-! ## Names -/

theorem toLower_eq_dot_iff {c : Char} (h : isNameChar c = true) : c.toLower = '.' ↔ c = '.' := by
  refine of_ascii (P := fun c => c.toLower = '.' ↔ c = '.') ?_ (lt_of_isNameChar h)
  decide +kernel

theorem lowerLabels_eq (h : validateLabels (split '.' host) = .ok ()) :
    lowerLabels host = (pieces '.' host.toList).map (List.map Char.toLower) := by
  rw [lowerLabels, asciiLower, String.toList_ofList]
  exact pieces_map fun c hc => toLower_eq_dot_iff (isNameChar_of_labels h c hc)

theorem ne_nil_of_mem_lowerLabels (h : validateLabels (split '.' host) = .ok ()) :
    ∀ l ∈ lowerLabels host, l ≠ [] := by
  intro l hl
  rw [lowerLabels_eq h, List.mem_map] at hl
  obtain ⟨piece, hpiece, rfl⟩ := hl
  exact mt List.map_eq_nil_iff.mp (of_mem_pieces h piece hpiece).1

/-- How a name is read if its last label is no number. -/
theorem parse_of_labels (h : validateLabels (split '.' host) = .ok ())
    (hlast : ∀ l ∈ (lowerLabels host).getLast?, ¬ IsNumeral l) :
    Url.Host.parse host =
      if Domain.isName (lowerLabels host) then .ok (.domain (asciiLower host))
      else .error .invalidInternationalName := by
  obtain ⟨ls, l, hlabels⟩ := (List.eq_nil_or_concat (lowerLabels host)).resolve_left (pieces_ne_nil _ _)
  have hl : l ∈ (lowerLabels host).getLast? := by
    rw [hlabels, List.concat_eq_append, List.getLast?_concat]
    rfl
  have hne : l ≠ [] := ne_nil_of_mem_lowerLabels h l (List.mem_of_getLast? hl)
  rw [List.concat_eq_append] at hlabels
  have hnumeral : ¬ Url.endsInNumber (asciiLower host).toList = true := by
    rw [Url.endsInNumber_iff hlabels hne]
    exact hlast l hl
  rw [Url.parse_of_isNameChar (ne_empty_of_labels h) (isNameChar_of_labels h), if_neg hnumeral]
  rfl

theorem isName_of_lowerLabels (h : validateLabels (split '.' host) = .ok ())
    (hplain : ∀ l ∈ lowerLabels host, ¬ "xn--".toList <+: l) : Domain.isName (lowerLabels host) = true := by
  refine Domain.isName_of_plain (fun l hl c hc => ?_) hplain
  rw [lowerLabels_eq h, List.mem_map] at hl
  obtain ⟨piece, hpiece, rfl⟩ := hl
  obtain ⟨d, hd, rfl⟩ := List.mem_map.mp hc
  exact lt_of_isNameChar (toLower_of_isNameChar ((of_mem_pieces h piece hpiece).2 d hd)).1

/-! ## Authorities -/

/-- The characters of a host with a port. -/
def isAuthorityChar (c : Char) : Bool := isNameChar c || c == ':' || c == '[' || c == ']'

theorem isAuthorityChar_of_isLiteralChar {c : Char} (h : isLiteralChar c = true) :
    isAuthorityChar c = true := by
  have hcode : c.toNat < 128 := by
    simp only [isLiteralChar, Bool.or_eq_true, beq_iff_eq] at h
    rcases h with (hdigit | rfl) | rfl
    · exact lt_of_digit? hdigit
    · decide
    · decide
  refine of_ascii (P := fun c => isLiteralChar c = true → isAuthorityChar c = true) ?_ hcode h
  decide +kernel

theorem isAuthorityChar_of_validateHost (h : validateHost host = .ok ()) :
    ∀ c ∈ (hostAuthority host).toList, isAuthorityChar c = true := by
  rcases parse?_or_labels h with ⟨ip, hip⟩ | ⟨hnone, hlabels⟩
  · have hhost : ∀ c ∈ host.toList, isAuthorityChar c = true := fun c hc =>
      isAuthorityChar_of_isLiteralChar (isLiteralChar_of_parse? hip c hc)
    intro c hc
    cases ip with
    | v4 v4 =>
      rw [hostAuthority_eq_self (by simp [hip])] at hc
      exact hhost c hc
    | v6 v6 =>
      have hchars : (hostAuthority host).toList = '[' :: (host.toList ++ [']']) := by
        rw [hostAuthority_of_v6 hip]
        simp
      rw [hchars, List.mem_cons, List.mem_append, List.mem_singleton] at hc
      rcases hc with rfl | hc | rfl
      · rfl
      · exact hhost c hc
      · rfl
  · intro c hc
    rw [hostAuthority_eq_self (by simp [hnone])] at hc
    simp [isAuthorityChar, isNameChar_of_labels hlabels c hc]

end Accepted

theorem of_isAuthorityChar {c : Char} (h : isAuthorityChar c = true) :
    Url.isEdge c = false ∧ Url.endsAuthority c = false ∧ c ≠ '@' := by
  have hcode : c.toNat < 128 := by
    simp only [isAuthorityChar, Bool.or_eq_true, beq_iff_eq] at h
    rcases h with ((hname | rfl) | rfl) | rfl
    · exact lt_of_isNameChar hname
    · decide
    · decide
    · decide
  refine of_ascii (P := fun c => isAuthorityChar c = true →
    Url.isEdge c = false ∧ Url.endsAuthority c = false ∧ c ≠ '@') ?_ hcode h
  decide +kernel

end NodeAtlas.Net

namespace NodeAtlas.Endpoint

open NodeAtlas.Text NodeAtlas.Net

/-- The text of the base address. -/
def baseText (e : Endpoint) : String := "https://" ++ (e.authority ++ ":" ++ toString e.port.toNat) ++ "/"

/-- The root of the server at a host, on the port of the endpoint. -/
def rootAt (e : Endpoint) (host : Url.Host) : Url :=
  ⟨⟨.https, host, if e.port.toNat = 443 then none else some e.port.toNat⟩, [""], none, none⟩

/-- What is reported if the text of the base address has a fault. -/
def urlError (e : Endpoint) (fault : Url.Fault) : Error :=
  .invalidConfiguration ("invalid endpoint URL '" ++ e.baseText ++ "': " ++ fault.message)

section BaseUrl

variable {e : Endpoint}

theorem message_eq (s : String) : "invalid endpoint URL 'https://" ++ s ++ "/': " =
    "invalid endpoint URL '" ++ ("https://" ++ s ++ "/") ++ "': " := by
  rw [← String.toList_inj]
  simp

theorem isAuthorityChar_of_mem (h : validateHost e.host = .ok ()) :
    ∀ c ∈ (e.authority ++ ":" ++ toString e.port.toNat).toList, isAuthorityChar c = true := by
  intro c hc
  rw [Url.toList_authority, List.mem_append, List.mem_cons] at hc
  rcases hc with hc | rfl | hc
  · exact isAuthorityChar_of_validateHost h c hc
  · rfl
  · simp [isAuthorityChar, isNameChar, isAlphanumeric, isDigit_of_mem_toDigits hc]

theorem at_notMem (h : validateHost e.host = .ok ()) : '@' ∉ e.authority.toList := fun hat =>
  (of_isAuthorityChar (isAuthorityChar_of_validateHost h '@' hat)).2.2 rfl

/-- The base address is what its text is read as, whatever it is resolved against. -/
theorem baseUrl_eq_join (h : validateHost e.host = .ok ()) (base : Url) :
    e.baseUrl = (base.join e.baseText).mapError e.urlError := by
  have hne : e.authority ++ ":" ++ toString e.port.toNat ≠ "" := by
    -- The colon is there, whatever the host.
    intro hnil
    have hchars := Url.toList_authority e.authority e.port.toNat
    rw [hnil] at hchars
    simp at hchars
  have hjoin : base.join e.baseText = Url.ofAuthority .https (e.authority ++ ":" ++ toString e.port.toNat) := by
    refine Url.join_https base hne fun c hc => ?_
    have hchar := of_isAuthorityChar (isAuthorityChar_of_mem h c hc)
    exact ⟨hchar.1, hchar.2.1⟩
  rw [hjoin]
  unfold baseUrl
  simp only [message_eq]
  cases Url.ofAuthority .https (e.authority ++ ":" ++ toString e.port.toNat) <;> rfl

/-- The base address has the host that is read from the authority alone. -/
theorem baseUrl_eq (h : validateHost e.host = .ok ()) :
    e.baseUrl = ((Url.Host.parse e.authority).map e.rootAt).mapError e.urlError := by
  have hport : e.port.toNat ≤ 65535 := by
    have hlt : e.port.toNat < 65536 := e.port.toNat_lt
    omega
  unfold baseUrl
  simp only [Url.ofAuthority_eq .https (at_notMem h) hport, message_eq]
  cases Url.Host.parse e.authority <;> rfl

theorem exists_rootAt (h : validateHost e.host = .ok ()) {u : Url} (hu : e.baseUrl = .ok u) :
    ∃ host, u = e.rootAt host := by
  rw [baseUrl_eq h] at hu
  cases hhost : Url.Host.parse e.authority with
  | ok host =>
    rw [hhost] at hu
    cases hu
    exact ⟨host, rfl⟩
  | error fault =>
    rw [hhost] at hu
    cases hu

theorem getD_port_rootAt (e : Endpoint) (host : Url.Host) :
    (e.rootAt host).origin.port.getD (e.rootAt host).origin.scheme.defaultPort = e.port.toNat := by
  by_cases hport : e.port.toNat = 443
  · simp [rootAt, hport, Url.Scheme.defaultPort]
  · simp [rootAt, hport]

theorem pathText_rootAt (e : Endpoint) (host : Url.Host) : (e.rootAt host).pathText = "/" := by
  have hroot : "/" ++ "/".intercalate [""] = "/" := by decide
  exact hroot

theorem baseUrl_of_address (h : validateHost e.host = .ok ()) {ip : Address}
    (hip : Address.parse? e.host = some ip) : e.baseUrl = .ok (e.rootAt (.ofAddress ip)) := by
  rw [baseUrl_eq h, authority, parse_hostAuthority hip]
  rfl

theorem baseUrl_of_name (h : validateHost e.host = .ok ()) (hnone : Address.parse? e.host = none)
    (hlast : ∀ l ∈ (lowerLabels e.host).getLast?, ¬ IsNumeral l) :
    e.baseUrl =
      if Domain.isName (lowerLabels e.host) then .ok (e.rootAt (.domain (asciiLower e.host)))
      else .error (e.urlError .invalidInternationalName) := by
  have hlabels := (parse?_or_labels h).resolve_left (by simp [hnone])
  have hauthority : e.authority = e.host := hostAuthority_eq_self (by simp [hnone])
  rw [baseUrl_eq h, hauthority, parse_of_labels hlabels.2 hlast]
  cases Domain.isName (lowerLabels e.host) <;> rfl

/-- What an accepted host makes the base address of an endpoint: its text is read as a whole and holds no user
information. It has the scheme, the port and the path of the endpoint. An address is kept as it is, and a name
is kept in lower case, unless its last label is written like a number; it is refused only for a label that
begins with `xn--`. -/
theorem baseUrl_of_validateHost (h : validateHost e.host = .ok ()) :
    (∀ base : Url, e.baseUrl = (base.join e.baseText).mapError e.urlError) ∧
    '@' ∉ e.authority.toList ∧
    (∀ u, e.baseUrl = .ok u → u.origin.scheme = .https ∧
      u.origin.port.getD u.origin.scheme.defaultPort = e.port.toNat ∧ u.pathText = "/" ∧
      u.query = none ∧ u.fragment = none) ∧
    (∀ ip, Address.parse? e.host = some ip → e.baseUrl = .ok (e.rootAt (.ofAddress ip))) ∧
    (Address.parse? e.host = none → (∀ l ∈ (lowerLabels e.host).getLast?, ¬ IsNumeral l) →
      e.baseUrl =
        if Domain.isName (lowerLabels e.host) then .ok (e.rootAt (.domain (asciiLower e.host)))
        else .error (e.urlError .invalidInternationalName)) ∧
    (Address.parse? e.host = none → (∀ l ∈ lowerLabels e.host, ¬ "xn--".toList <+: l) →
      Domain.isName (lowerLabels e.host) = true) := by
  refine ⟨baseUrl_eq_join h, at_notMem h, fun u hu => ?_, fun ip => baseUrl_of_address h,
    baseUrl_of_name h, fun hnone => ?_⟩
  · obtain ⟨host, rfl⟩ := exists_rootAt h hu
    exact ⟨rfl, getD_port_rootAt e host, pathText_rootAt e host, rfl, rfl⟩
  · have hlabels := (parse?_or_labels h).resolve_left (by simp [hnone])
    exact isName_of_lowerLabels hlabels.2

end BaseUrl

/-- An endpoint at the given host, on port 8443. -/
def sample (host : String) : Endpoint := ⟨"a", host, 8443, .none, globalSecretRef, false, [], [.ipv4]⟩

/-- An address of either version, and a name. -/
theorem baseUrl_of_samples :
    (sample "10.0.0.1").baseUrl = .ok ⟨⟨.https, .v4 ⟨10, 0, 0, 1⟩, some 8443⟩, [""], none, none⟩ ∧
    (sample "fd01::1").baseUrl =
      .ok ⟨⟨.https, .v6 ⟨#v[0xfd01, 0, 0, 0, 0, 0, 0, 1]⟩, some 8443⟩, [""], none, none⟩ ∧
    (sample "Icenter.local").baseUrl =
      .ok ⟨⟨.https, .domain "icenter.local", some 8443⟩, [""], none, none⟩ := by
  obtain ⟨-, -, -, hv4, -⟩ := baseUrl_of_validateHost (e := sample "10.0.0.1") (by decide +kernel)
  obtain ⟨-, -, -, hv6, -⟩ := baseUrl_of_validateHost (e := sample "fd01::1") (by decide +kernel)
  obtain ⟨-, -, -, -, hname, hplain⟩ :=
    baseUrl_of_validateHost (e := sample "Icenter.local") (by decide +kernel)
  refine ⟨?_, ?_, ?_⟩
  · rw [hv4 (.v4 ⟨10, 0, 0, 1⟩) (by decide +kernel)]
    rfl
  · rw [hv6 (.v6 ⟨#v[0xfd01, 0, 0, 0, 0, 0, 0, 1]⟩) (by decide +kernel)]
    rfl
  · have hnone : Address.parse? "Icenter.local" = none := by decide +kernel
    have hlast : ∀ l ∈ (lowerLabels "Icenter.local").getLast?, ¬ IsNumeral l := by
      have hlocal : (lowerLabels "Icenter.local").getLast? = some "local".toList := by decide +kernel
      rw [hlocal]
      intro l hl
      cases hl
      exact not_isNumeral (by decide) _
    rw [hname hnone hlast, if_pos (hplain hnone (by decide +kernel))]
    decide +kernel

/-- Hosts that are accepted although they are not the host of their base address. -/
theorem accepted_hosts_not_kept :
    create "a" "xn--a" 8443 = .ok (sample "xn--a") ∧
    (sample "xn--a").baseUrl = .error (.invalidConfiguration
      "invalid endpoint URL 'https://xn--a:8443/': invalid international domain name") ∧
    create "a" "127.1" 8443 = .ok (sample "127.1") ∧
    (sample "127.1").baseUrl = .ok ⟨⟨.https, .v4 ⟨127, 0, 0, 1⟩, some 8443⟩, [""], none, none⟩ := by
  decide +kernel

end NodeAtlas.Endpoint
