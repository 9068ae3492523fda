import NodeAtlas.Proofs.Net.References
import NodeAtlas.Proofs.Text.Ascii

/-!
# Authorities

A host with a port makes an authority. If no at sign and no character that ends an authority stands in the
host, reading gives back what was put together, both from the authority alone and from the whole address.
-/

namespace NodeAtlas.Net.Url

open NodeAtlas.Text

/-! ## Host and port -/

theorem hostAndPort_append {host port : List Char} (h : ∀ c ∈ port, c ≠ ':' ∧ c ≠ ']') :
    hostAndPort (host ++ ':' :: port) = (host, port) := by
  have hport : ((host ++ ':' :: port).reverse.takeWhile fun c => c ≠ ':' && c ≠ ']').reverse = port := by
    have hall : ∀ c ∈ port.reverse, (decide (c ≠ ':') && decide (c ≠ ']')) = true := by
      intro c hc
      have hc := h c (List.mem_reverse.mp hc)
      simp [hc.1, hc.2]
    rw [List.reverse_append, List.reverse_cons, List.append_assoc, List.takeWhile_append_of_pos hall,
      List.singleton_append, List.takeWhile_cons_of_neg (by decide), List.append_nil, List.reverse_reverse]
  have hrest : (host ++ ':' :: port).take ((host ++ ':' :: port).length - port.length) =
      host ++ [':'] := by
    have hsplit : host ++ ':' :: port = (host ++ [':']) ++ port := by simp
    have hlength : (host ++ ':' :: port).length - port.length = (host ++ [':']).length := by
      simp only [List.length_append, List.length_cons, List.length_nil]
      omega
    rw [hlength, hsplit, List.take_left]
  unfold hostAndPort
  simp only [hport, hrest, List.getLast?_concat, List.dropLast_concat, if_true]

theorem dropUserInfo_of_notMem {cs : List Char} (h : '@' ∉ cs) : dropUserInfo cs = cs := by
  have hall : cs.reverse.takeWhile (fun c => decide (c ≠ '@')) = cs.reverse := by
    rw [List.takeWhile_eq_self_iff]
    intro c hc
    rw [decide_eq_true_eq]
    rintro rfl
    exact h (List.mem_reverse.mp hc)
  rw [dropUserInfo, hall, List.reverse_reverse]

/-- A port is read from its digits, and not kept if it goes without saying. -/
theorem parsePort_toDigits (scheme : Scheme) {n : Nat} (hn : n ≤ 65535) :
    parsePort scheme (Nat.toDigits 10 n) = .ok (if n = scheme.defaultPort then none else some n) := by
  have hne : (Nat.toDigits 10 n).isEmpty = false := by
    rw [List.isEmpty_eq_false_iff]
    exact Nat.toDigits_ne_nil
  rw [parsePort, hne, readDigits_toDigits hn]
  rfl

section Authority

variable {host : String} {n : Nat}

theorem toList_authority (host : String) (n : Nat) :
    (host ++ ":" ++ toString n).toList = host.toList ++ ':' :: Nat.toDigits 10 n := by
  simp

theorem at_notMem_authority (hat : '@' ∉ host.toList) : '@' ∉ (host ++ ":" ++ toString n).toList := by
  rw [toList_authority, List.mem_append, List.mem_cons, not_or, not_or]
  refine ⟨hat, by decide, fun h => ?_⟩
  exact absurd (isDigit_of_mem_toDigits h) (by decide)

/-- The address of a host with a port is that of the host as it is read alone. -/
theorem ofAuthority_eq (scheme : Scheme) (hat : '@' ∉ host.toList) (hn : n ≤ 65535) :
    ofAuthority scheme (host ++ ":" ++ toString n) =
      match Host.parse host with
      | .error fault => .error fault
      | .ok h => .ok ⟨⟨scheme, h, if n = scheme.defaultPort then none else some n⟩, [""], none, none⟩ := by
  have hport : ∀ c ∈ Nat.toDigits 10 n, c ≠ ':' ∧ c ≠ ']' := by
    intro c hc
    have hdigit := isDigit_of_mem_toDigits hc
    constructor
    · rintro rfl
      exact absurd hdigit (by decide)
    · rintro rfl
      exact absurd hdigit (by decide)
  unfold ofAuthority Origin.parse
  rw [dropUserInfo_of_notMem (at_notMem_authority hat), toList_authority, hostAndPort_append hport]
  simp only [String.ofList_toList, parsePort_toDigits scheme hn]
  cases Host.parse host <;> rfl

end Authority

/-! ## Whole addresses -/

/-- The character ends an authority. -/
def endsAuthority (c : Char) : Bool := isSlash c || c == '?' || c == '#'

theorem clean_eq_self {cs : List Char} (h : ∀ c ∈ cs, isEdge c = false) : clean cs = cs := by
  have hfront : cs.dropWhile isEdge = cs := by
    cases cs with
    | nil => rfl
    | cons c cs => exact List.dropWhile_cons_of_neg (by simp [h c List.mem_cons_self])
  have hend : cs.rdropWhile isEdge = cs := by
    rw [List.rdropWhile_eq_self_iff]
    intro hne
    simp [h _ (List.getLast_mem hne)]
  rw [clean_eq, hfront, hend, List.filter_eq_self]
  intro c hc
  rw [isGap_of_isEdge (h c hc)]
  rfl

theorem schemePart?_https (cs : List Char) :
    schemePart? ("https:".toList ++ cs) = some ("https", cs) := rfl

section Whole

variable {authority : String}

theorem isSlash_of_endsAuthority {c : Char} (h : endsAuthority c = false) : isSlash c = false := by
  simp only [endsAuthority, Bool.or_eq_false_iff] at h
  exact h.1.1

/-- The part behind the slashes of a scheme is the authority, and the path is that of the root. -/
theorem absolute_root (scheme : Scheme) (h : ∀ c ∈ authority.toList, endsAuthority c = false) :
    absolute scheme (authority.toList ++ ['/']) = ofAuthority scheme authority := by
  have hkept : ∀ c ∈ authority.toList, (!endsAuthority c) = true := by
    intro c hc
    rw [h c hc]
    rfl
  have htake : (authority.toList ++ ['/']).takeWhile (fun c => !endsAuthority c) = authority.toList := by
    rw [List.takeWhile_append_of_pos hkept, List.takeWhile_cons_of_neg (by decide), List.append_nil]
  have hdrop : (authority.toList ++ ['/']).dropWhile (fun c => !endsAuthority c) = ['/'] := by
    rw [List.dropWhile_append_of_pos hkept, List.dropWhile_cons_of_neg (by decide)]
  have hends : ∀ c, (isSlash c || c == '?' || c == '#') = endsAuthority c := fun c => rfl
  have htail : Tail.ofChars ['/'] = ⟨['/'], none, none⟩ := rfl
  have hroot : rootPath ['/'] = [""] := by decide
  unfold absolute ofAuthority
  simp only [hends, htake, hdrop, htail, hroot]
  cases Origin.parse scheme authority.toList <;> rfl

/-- A whole address of a server is read by its authority, whatever it is resolved against. -/
theorem join_https (base : Url) (hne : authority ≠ "")
    (h : ∀ c ∈ authority.toList, isEdge c = false ∧ endsAuthority c = false) :
    base.join ("https://" ++ authority ++ "/") = ofAuthority .https authority := by
  have htext : ("https://" ++ authority ++ "/").toList =
      "https:".toList ++ '/' :: '/' :: (authority.toList ++ ['/']) := by simp
  have hclean : clean ("https://" ++ authority ++ "/").toList =
      "https:".toList ++ '/' :: '/' :: (authority.toList ++ ['/']) := by
    rw [htext]
    refine clean_eq_self fun c hc => ?_
    simp only [List.mem_append, List.mem_cons] at hc
    rcases hc with hc | rfl | rfl | hc | rfl | hc
    · have hscheme : ("https:".toList.any isEdge) = false := by decide
      simpa using List.any_eq_false.mp hscheme c hc
    · rfl
    · rfl
    · exact (h c hc).1
    · rfl
    · cases hc
  -- The authority does not begin with a third slash.
  obtain ⟨x, xs, hxs⟩ := List.exists_cons_of_ne_nil (mt String.toList_eq_nil_iff.mp hne)
  have hx : isSlash x = false :=
    isSlash_of_endsAuthority (h x (by rw [hxs]; exact List.mem_cons_self)).2
  have hbody : ('/' :: '/' :: (authority.toList ++ ['/'])).dropWhile isSlash =
      authority.toList ++ ['/'] := by
    rw [hxs, List.dropWhile_cons_of_pos rfl, List.dropWhile_cons_of_pos rfl, List.cons_append,
      List.dropWhile_cons_of_neg (by simp [hx])]
  have hslashes : ¬ (('/' :: '/' :: (authority.toList ++ ['/'])).takeWhile isSlash).length < 2 := by
    rw [List.takeWhile_cons_of_pos rfl, List.takeWhile_cons_of_pos rfl]
    simp
  have hscheme : Scheme.ofName? "https" = some .https := by decide
  unfold join
  simp only [hclean, schemePart?_https, hscheme, hslashes, hbody, and_false, if_false]
  exact absolute_root .https fun c hc => (h c hc).2

end Whole

end NodeAtlas.Net.Url
