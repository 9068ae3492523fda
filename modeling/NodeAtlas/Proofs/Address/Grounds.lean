import Mathlib.Data.List.Nodup
import NodeAtlas.Proofs.Address.Selection

/-!
# The grounds for an address

What a selection lists, it lists for a reason: behind the name of the machine comes nothing but addresses of
its interfaces, each once as a kind and each as a kind that the rules make it. If any interface has an
address to be listed, then some address is listed.
-/

namespace NodeAtlas.AddressPolicy

open NodeAtlas.Net NodeAtlas.Text

variable {p : AddressPolicy} {vm : Machine} {families : List Family} {nic : Nic} {ip : Address}
  {a b : NodeAddress}

/-- The address of an interface can be read, other machines can reach it, and it is of one of the
families. -/
structure Candidate (families : List Family) (nic : Nic) (ip : Address) : Prop where
  read : Address.parse? (trim nic.address) = some ip
  reachable : ip.isLocalOnly = false
  wanted : ∃ f ∈ families, f.includes ip = true

/-- Why the address of an interface is one of a kind. -/
inductive Grounds (p : AddressPolicy) (nic : Nic) (ip : Address) : AddressKind → Prop where
  /-- Both subnets are configured, and the address lies in the internal one. -/
  | insideInternal {i e : Subnet} (hi : p.internalSubnet = some i) (he : p.externalSubnet = some e)
      (h : i.contains ip.unmap = true) : Grounds p nic ip .internal
  | insideExternal {i e : Subnet} (hi : p.internalSubnet = some i) (he : p.externalSubnet = some e)
      (h : e.contains ip.unmap = true) : Grounds p nic ip .external
  /-- A subnet is missing, and the interface is on the internal network. -/
  | onInternal (hsubnet : p.internalSubnet = none ∨ p.externalSubnet = none)
      (hname : p.internalNetwork ≠ "")
      (h : sameIgnoringCase p.internalNetwork nic.network = true) : Grounds p nic ip .internal
  /-- A subnet is missing, and the interface is on the external network and not on the internal one. -/
  | onExternal (hsubnet : p.internalSubnet = none ∨ p.externalSubnet = none)
      (hname : p.externalNetwork ≠ "")
      (h : sameIgnoringCase p.externalNetwork nic.network = true)
      (hnot : p.internalNetwork = "" ∨ sameIgnoringCase p.internalNetwork nic.network = false) :
      Grounds p nic ip .external
  /-- There are no rules. -/
  | unrestricted (hsubnet : p.internalSubnet = none ∨ p.externalSubnet = none)
      (hi : p.internalNetwork = "") (he : p.externalNetwork = "") {kind : AddressKind}
      (hkind : kind ≠ .hostname) : Grounds p nic ip kind

/-! ## What an interface offers -/

theorem candidate_iff : Candidate families nic ip ↔ nic.routable? = some ip ∧ ip.family ∈ families := by
  have hwanted : (∃ f ∈ families, f.includes ip = true) ↔ ip.family ∈ families := by
    simp [Family.includes_iff]
  unfold Nic.routable?
  rw [Option.filter_eq_some_iff]
  constructor
  · intro h
    have hreachable : (!ip.isLocalOnly) = true := by simp [h.reachable]
    exact ⟨⟨h.read, hreachable⟩, hwanted.mp h.wanted⟩
  · rintro ⟨⟨hread, hreachable⟩, hfamily⟩
    exact ⟨hread, by simpa using hreachable, hwanted.mpr hfamily⟩

theorem bySubnet_eq_false_iff :
    p.bySubnet = false ↔ p.internalSubnet = none ∨ p.externalSubnet = none := by
  unfold bySubnet
  cases p.internalSubnet <;> cases p.externalSubnet <;> simp

theorem bySubnet_eq_true_iff : p.bySubnet = true ↔
    ∃ i e, p.internalSubnet = some i ∧ p.externalSubnet = some e := by
  unfold bySubnet
  cases p.internalSubnet <;> cases p.externalSubnet <;> simp

theorem isInternalNetwork_iff {name : String} : p.isInternalNetwork name = true ↔
    p.internalNetwork ≠ "" ∧ sameIgnoringCase p.internalNetwork name = true := by
  simp [isInternalNetwork]

theorem isInternalNetwork_eq_false_iff {name : String} : p.isInternalNetwork name = false ↔
    p.internalNetwork = "" ∨ sameIgnoringCase p.internalNetwork name = false := by
  by_cases h : p.internalNetwork = "" <;> simp [isInternalNetwork, h]

theorem isExternalNetwork_iff {name : String} : p.isExternalNetwork name = true ↔
    p.externalNetwork ≠ "" ∧ sameIgnoringCase p.externalNetwork name = true := by
  simp [isExternalNetwork]

theorem namesNetwork_eq_false_iff :
    p.namesNetwork = false ↔ p.internalNetwork = "" ∧ p.externalNetwork = "" := by
  simp [namesNetwork]

theorem namesNetwork_iff :
    p.namesNetwork = true ↔ p.internalNetwork ≠ "" ∨ p.externalNetwork ≠ "" := by
  simp [namesNetwork]

theorem not_grounds_hostname : ¬ p.Grounds nic ip .hostname := by
  intro h
  cases h with
  | unrestricted hsubnet hi he hkind => exact hkind rfl

theorem grounds_internal_iff : p.Grounds nic ip .internal ↔ p.Internal nic ip := by
  unfold Internal
  constructor
  · intro h
    cases h with
    | insideInternal hi he h =>
      have hsubnet : p.bySubnet = true := bySubnet_eq_true_iff.mpr ⟨_, _, hi, he⟩
      rw [if_pos hsubnet]
      exact ⟨_, hi, h⟩
    | onInternal hsubnet hname h =>
      have hby : p.bySubnet = false := bySubnet_eq_false_iff.mpr hsubnet
      have hon : p.isInternalNetwork nic.network = true := isInternalNetwork_iff.mpr ⟨hname, h⟩
      have hnames : p.namesNetwork = true := namesNetwork_iff.mpr (.inl hname)
      simp [hby, hnames, hon]
    | unrestricted hsubnet hi he _ =>
      have hby : p.bySubnet = false := bySubnet_eq_false_iff.mpr hsubnet
      have hnames : p.namesNetwork = false := namesNetwork_eq_false_iff.mpr ⟨hi, he⟩
      simp [hby, hnames]
  · intro h
    cases hby : p.bySubnet with
    | true =>
      obtain ⟨i, e, hi, he⟩ := bySubnet_eq_true_iff.mp hby
      rw [if_pos hby] at h
      obtain ⟨net, hnet, hin⟩ := h
      rw [hi] at hnet
      exact .insideInternal hi he (Option.some.inj hnet ▸ hin)
    | false =>
      have hsubnet := bySubnet_eq_false_iff.mp hby
      cases hnames : p.namesNetwork with
      | true =>
        have hon : p.isInternalNetwork nic.network = true := by simpa [hby, hnames] using h
        obtain ⟨hname, hsame⟩ := isInternalNetwork_iff.mp hon
        exact .onInternal hsubnet hname hsame
      | false =>
        obtain ⟨hi, he⟩ := namesNetwork_eq_false_iff.mp hnames
        exact .unrestricted hsubnet hi he (by simp)

theorem grounds_external_iff : p.Grounds nic ip .external ↔ p.External nic ip := by
  unfold External
  constructor
  · intro h
    cases h with
    | insideExternal hi he h =>
      have hsubnet : p.bySubnet = true := bySubnet_eq_true_iff.mpr ⟨_, _, hi, he⟩
      rw [if_pos hsubnet]
      exact ⟨_, he, h⟩
    | onExternal hsubnet hname h hnot =>
      have hby : p.bySubnet = false := bySubnet_eq_false_iff.mpr hsubnet
      have hon : p.isExternalNetwork nic.network = true := isExternalNetwork_iff.mpr ⟨hname, h⟩
      have hoff : p.isInternalNetwork nic.network = false := isInternalNetwork_eq_false_iff.mpr hnot
      have hnames : p.namesNetwork = true := namesNetwork_iff.mpr (.inr hname)
      simp [hby, hnames, hon, hoff]
    | unrestricted hsubnet hi he _ =>
      have hby : p.bySubnet = false := bySubnet_eq_false_iff.mpr hsubnet
      have hnames : p.namesNetwork = false := namesNetwork_eq_false_iff.mpr ⟨hi, he⟩
      simp [hby, hnames]
  · intro h
    cases hby : p.bySubnet with
    | true =>
      obtain ⟨i, e, hi, he⟩ := bySubnet_eq_true_iff.mp hby
      rw [if_pos hby] at h
      obtain ⟨net, hnet, hin⟩ := h
      rw [he] at hnet
      exact .insideExternal hi he (Option.some.inj hnet ▸ hin)
    | false =>
      have hsubnet := bySubnet_eq_false_iff.mp hby
      cases hnames : p.namesNetwork with
      | true =>
        have hon : p.isExternalNetwork nic.network = true ∧ p.isInternalNetwork nic.network = false := by
          simpa [hby, hnames] using h
        obtain ⟨hname, hsame⟩ := isExternalNetwork_iff.mp hon.1
        exact .onExternal hsubnet hname hsame (isInternalNetwork_eq_false_iff.mp hon.2)
      | false =>
        obtain ⟨hi, he⟩ := namesNetwork_eq_false_iff.mp hnames
        exact .unrestricted hsubnet hi he (by simp)

/-- An interface offers its address as every kind that there are grounds for. -/
theorem mem_offer_iff_grounds : a ∈ p.offer families nic ↔
    ∃ ip, Candidate families nic ip ∧ a.address = ip.render ∧ p.Grounds nic ip a.kind := by
  obtain ⟨kind, address⟩ := a
  constructor
  · intro h
    obtain ⟨ip, hip, hfamily, haddress, ⟨hkind, hi⟩ | ⟨hkind, he⟩⟩ := cases_of_mem_offer h
    · obtain rfl : kind = .internal := hkind
      exact ⟨ip, candidate_iff.mpr ⟨hip, hfamily⟩, haddress, grounds_internal_iff.mpr hi⟩
    · obtain rfl : kind = .external := hkind
      exact ⟨ip, candidate_iff.mpr ⟨hip, hfamily⟩, haddress, grounds_external_iff.mpr he⟩
  · rintro ⟨ip, hcandidate, haddress, hgrounds⟩
    obtain rfl : address = ip.render := haddress
    obtain ⟨hip, hfamily⟩ := candidate_iff.mp hcandidate
    obtain ⟨hi, he⟩ := mem_offer_iff (p := p) hip hfamily
    cases kind with
    | hostname => exact (not_grounds_hostname hgrounds).elim
    | internal => exact hi.mpr (grounds_internal_iff.mp hgrounds)
    | external => exact he.mpr (grounds_external_iff.mp hgrounds)

theorem answers_iff_grounds : p.Answers families nic ↔
    ∃ ip, Candidate families nic ip ∧ ∃ kind, p.Grounds nic ip kind := by
  rw [← offer_ne_nil_iff]
  constructor
  · intro hsome
    obtain ⟨a, ha⟩ := List.exists_mem_of_ne_nil _ hsome
    obtain ⟨ip, hcandidate, -, hgrounds⟩ := mem_offer_iff_grounds.mp ha
    exact ⟨ip, hcandidate, a.kind, hgrounds⟩
  · rintro ⟨ip, hcandidate, kind, hgrounds⟩
    have hmem : ⟨kind, ip.render⟩ ∈ p.offer families nic :=
      mem_offer_iff_grounds.mpr ⟨ip, hcandidate, rfl, hgrounds⟩
    exact List.ne_nil_of_mem hmem

/-! ## The list as it grows -/

/-- The list has no address twice as the same kind, and it begins with the name of the machine. -/
structure Orderly (vm : Machine) (as : List NodeAddress) : Prop where
  nodup : as.Nodup
  hostname : [⟨.hostname, vm.name⟩] <+: as

theorem Orderly.pushNew {as : List NodeAddress} (h : Orderly vm as) (b : NodeAddress) :
    Orderly vm (pushNew as b) := by
  unfold AddressPolicy.pushNew
  split_ifs with hmem
  · exact h
  · refine ⟨?_, h.hostname.trans (List.prefix_append _ _)⟩
    rw [List.nodup_append]
    refine ⟨h.nodup, List.nodup_singleton b, ?_⟩
    intro c hc d hd hcd
    rw [List.mem_singleton] at hd
    exact hmem (hd ▸ hcd ▸ hc)

theorem Orderly.pushAllNew {as : List NodeAddress} (h : Orderly vm as) (bs : List NodeAddress) :
    Orderly vm (pushAllNew as bs) := by
  induction bs generalizing as with
  | nil => exact h
  | cons b bs ih => exact ih (h.pushNew b)

theorem Orderly.turn {s : Selection} (h : Orderly vm s.list) (families : List Family) (nic : Nic) :
    Orderly vm (p.turn families s nic).list := by
  unfold AddressPolicy.turn Selection.take
  dsimp only
  exact h.pushAllNew _

theorem Orderly.foldl_turn {s : Selection} (h : Orderly vm s.list) (families : List Family)
    (nics : List Nic) : Orderly vm (nics.foldl (p.turn families) s).list := by
  induction nics generalizing s with
  | nil => exact h
  | cons nic nics ih =>
    rw [List.foldl_cons]
    exact ih (h.turn families nic)

theorem orderly_select (p : AddressPolicy) (vm : Machine) (families : List Family) :
    Orderly vm (p.select vm families) := by
  have hstart : Orderly vm [⟨.hostname, vm.name⟩] := ⟨List.nodup_singleton _, List.prefix_rfl⟩
  rw [select_eq]
  exact hstart.foldl_turn (s := ⟨[⟨.hostname, vm.name⟩], false⟩) families vm.nics

/-- If some interface has an answer, then the first one of them has not been passed over. -/
theorem exists_not_passedOver (h : ∃ n ∈ vm.nics, p.Answers families n) :
    ∃ before nic after, vm.nics = before ++ nic :: after ∧ ¬ p.PassedOver families before nic ∧
      p.Answers families nic := by
  classical
  have hfirst : (vm.nics.find? fun n => decide (p.Answers families n)).isSome = true := by
    rw [List.find?_isSome]
    obtain ⟨n, hn, hanswers⟩ := h
    exact ⟨n, hn, decide_eq_true hanswers⟩
  obtain ⟨nic, hnic⟩ := Option.isSome_iff_exists.mp hfirst
  obtain ⟨hanswers, before, after, hsplit, hnone⟩ := List.find?_eq_some_iff_append.mp hnic
  refine ⟨before, nic, after, hsplit, ?_, of_decide_eq_true hanswers⟩
  rintro ⟨⟨n, hn, hearlier⟩, -⟩
  have hno := hnone n hn
  simp [hearlier] at hno

/-! ## The whole list -/

/-- What stands behind the name has been offered by an interface that was not passed over. -/
theorem mem_behind_iff {ips : List NodeAddress}
    (hlist : p.select vm families = ⟨.hostname, vm.name⟩ :: ips)
    (hnodup : (p.select vm families).Nodup) :
    a ∈ ips ↔ ∃ before nic after, vm.nics = before ++ nic :: after ∧
      ¬ p.PassedOver families before nic ∧ a ∈ p.offer families nic := by
  have hname : ⟨.hostname, vm.name⟩ ∉ ips := (List.nodup_cons.mp (hlist ▸ hnodup)).1
  have hmem : a ∈ p.select vm families ↔ _ := mem_select_iff
  rw [hlist, List.mem_cons] at hmem
  constructor
  · intro ha
    refine (hmem.mp (.inr ha)).resolve_left ?_
    rintro rfl
    exact hname ha
  · intro ha
    refine (hmem.mpr (.inr ha)).resolve_left ?_
    rintro rfl
    obtain ⟨before, nic, after, -, -, hoffer⟩ := ha
    obtain ⟨ip, -, -, hgrounds⟩ := mem_offer_iff_grounds.mp hoffer
    exact not_grounds_hostname hgrounds

/-- The name of the machine comes first and is the only one. Behind it, no address stands twice as the same
kind, every address is one of an interface, and there are grounds for its kind; without rules each is
listed as both kinds. No address is listed only if no interface has an address that there are grounds
for. -/
theorem select_grounded (p : AddressPolicy) (vm : Machine) (families : List Family) :
    ∃ ips, p.select vm families = ⟨.hostname, vm.name⟩ :: ips ∧ (p.select vm families).Nodup ∧
      (∀ a ∈ ips, a.kind ≠ .hostname ∧ ∃ nic ∈ vm.nics, ∃ ip, Candidate families nic ip ∧
        a.address = ip.render ∧ p.Grounds nic ip a.kind) ∧
      ((p.internalSubnet = none ∨ p.externalSubnet = none) → p.internalNetwork = "" →
        p.externalNetwork = "" → ∀ a ∈ ips, ⟨.internal, a.address⟩ ∈ ips ∧
          ⟨.external, a.address⟩ ∈ ips) ∧
      (ips ≠ [] ↔ ∃ nic ∈ vm.nics, ∃ ip, Candidate families nic ip ∧ ∃ kind, p.Grounds nic ip kind) := by
  obtain ⟨hnodup, ips, hips⟩ := orderly_select p vm families
  have hlist : p.select vm families = ⟨.hostname, vm.name⟩ :: ips := hips.symm
  refine ⟨ips, hlist, hnodup, ?_, ?_, ?_⟩
  · intro a ha
    obtain ⟨before, nic, after, hsplit, -, hoffer⟩ := (mem_behind_iff hlist hnodup).mp ha
    obtain ⟨ip, hcandidate, haddress, hgrounds⟩ := mem_offer_iff_grounds.mp hoffer
    have hnic : nic ∈ vm.nics := by simp [hsplit]
    refine ⟨?_, nic, hnic, ip, hcandidate, haddress, hgrounds⟩
    intro hkind
    exact not_grounds_hostname (hkind ▸ hgrounds)
  · intro hsubnet hi he a ha
    obtain ⟨before, nic, after, hsplit, hpassed, hoffer⟩ := (mem_behind_iff hlist hnodup).mp ha
    obtain ⟨ip, hcandidate, haddress, -⟩ := mem_offer_iff_grounds.mp hoffer
    have hboth (kind : AddressKind) (hkind : kind ≠ .hostname) : ⟨kind, a.address⟩ ∈ ips := by
      have hgrounds : p.Grounds nic ip kind := .unrestricted hsubnet hi he hkind
      have hagain : ⟨kind, a.address⟩ ∈ p.offer families nic :=
        mem_offer_iff_grounds.mpr ⟨ip, hcandidate, haddress, hgrounds⟩
      exact (mem_behind_iff hlist hnodup).mpr ⟨before, nic, after, hsplit, hpassed, hagain⟩
    exact ⟨hboth .internal (by simp), hboth .external (by simp)⟩
  · simp only [← answers_iff_grounds]
    constructor
    · intro hsome
      obtain ⟨a, ha⟩ := List.exists_mem_of_ne_nil _ hsome
      obtain ⟨before, nic, after, hsplit, -, hoffer⟩ := (mem_behind_iff hlist hnodup).mp ha
      have hnic : nic ∈ vm.nics := by simp [hsplit]
      exact ⟨nic, hnic, offer_ne_nil_iff.mp (List.ne_nil_of_mem hoffer)⟩
    · intro hanswers
      obtain ⟨before, nic, after, hsplit, hpassed, hanswer⟩ := exists_not_passedOver hanswers
      obtain ⟨a, ha⟩ := List.exists_mem_of_ne_nil _ (offer_ne_nil_iff.mpr hanswer)
      have hmem : a ∈ ips := (mem_behind_iff hlist hnodup).mpr ⟨before, nic, after, hsplit, hpassed, ha⟩
      exact List.ne_nil_of_mem hmem

/-- The internal address of one interface is listed because it lies in the internal subnet. Without rules it
is listed as an external one too. -/
theorem select_grounded_dual :
    ⟨.internal, "10.0.0.8"⟩ ∈ dual.select
        { (default : Machine) with nics := [externalNic, internalNic] } [.ipv4, .ipv6] ∧
      (∃ nic ∈ [externalNic, internalNic], ∃ ip, Candidate [.ipv4, .ipv6] nic ip ∧
        "10.0.0.8" = ip.render ∧ dual.Grounds nic ip .internal) ∧
      ⟨.internal, "10.0.0.8"⟩ ∈ (⟨none, none, "", ""⟩ : AddressPolicy).select
        { (default : Machine) with nics := [internalNic] } [.ipv4] ∧
      ⟨.external, "10.0.0.8"⟩ ∈ (⟨none, none, "", ""⟩ : AddressPolicy).select
        { (default : Machine) with nics := [internalNic] } [.ipv4] := by
  have hdual : ⟨.internal, "10.0.0.8"⟩ ∈ dual.select
      { (default : Machine) with nics := [externalNic, internalNic] } [.ipv4, .ipv6] := by
    decide +kernel
  have hfree : ⟨.internal, "10.0.0.8"⟩ ∈ (⟨none, none, "", ""⟩ : AddressPolicy).select
      { (default : Machine) with nics := [internalNic] } [.ipv4] := by
    decide +kernel
  refine ⟨hdual, ?_, hfree, ?_⟩
  · obtain ⟨ips, hlist, -, hgrounds, -⟩ := select_grounded dual
      { (default : Machine) with nics := [externalNic, internalNic] } [.ipv4, .ipv6]
    rw [hlist] at hdual
    have hmem := (List.mem_cons.mp hdual).resolve_left (by simp)
    exact (hgrounds _ hmem).2
  · obtain ⟨ips, hlist, -, -, hboth, -⟩ := select_grounded ⟨none, none, "", ""⟩
      { (default : Machine) with nics := [internalNic] } [.ipv4]
    rw [hlist] at hfree ⊢
    have hmem := (List.mem_cons.mp hfree).resolve_left (by simp)
    exact List.mem_cons_of_mem _ (hboth (.inl rfl) rfl rfl _ hmem).2

end NodeAtlas.AddressPolicy
