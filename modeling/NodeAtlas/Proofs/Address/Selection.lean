import Mathlib.Data.List.Induction
import NodeAtlas.Atlas.Address
import NodeAtlas.Proofs.Text.Trim

/-!
# The addresses that are selected

Every interface has something to offer by itself: its address as an internal or an external one, as
the rules say. A selection takes the offers of the interfaces one after another. Once one of them has
been taken, the later interfaces are asked for the first family only, so that an address of another
family can be passed over, and the order of the interfaces counts.
-/

namespace NodeAtlas

open NodeAtlas.Net NodeAtlas.Text

/-- The address of an interface, if other machines can reach it. -/
def Nic.routable? (nic : Nic) : Option Address :=
  (Address.parse? (trim nic.address)).filter fun ip => !ip.isLocalOnly

namespace Net

/-- The family that an address belongs to. -/
def Address.family (ip : Address) : Family :=
  if Family.ipv4.includes ip then .ipv4 else .ipv6

theorem Family.includes_iff {f : Family} {ip : Address} : f.includes ip = true ↔ f = ip.family := by
  unfold Address.family
  cases ip with
  | v4 ip => cases f <;> simp [includes]
  | v6 ip => cases f <;> cases h : ip.mapped? <;> simp [includes, h]

theorem Family.routable_nic (f : Family) (nic : Nic) :
    f.routable [nic.address] = (nic.routable?.filter fun ip => f.includes ip).toList := by
  unfold routable Nic.routable? Net.isLocalOnly
  simp only [List.filterMap_cons, List.filterMap_nil, trim_trim]
  cases Address.parse? (trim nic.address) with
  | none => rfl
  | some ip =>
    cases hlocal : ip.isLocalOnly with
    | true => simp [hlocal]
    | false =>
      cases hf : f.includes ip <;> simp [Option.filter, hlocal, hf]

end Net

namespace AddressPolicy

variable {p : AddressPolicy} {vm : Machine} {families : List Family} {nic : Nic} {ip : Address}
  {a : NodeAddress}

/-! ## What an interface offers -/

/-- The rules make the address of an interface an internal one. -/
def Internal (p : AddressPolicy) (nic : Nic) (ip : Address) : Prop :=
  if p.bySubnet then ∃ net, p.internalSubnet = some net ∧ net.contains ip.unmap = true
  else if p.namesNetwork then p.isInternalNetwork nic.network = true
  else True

/-- The rules make the address of an interface an external one. -/
def External (p : AddressPolicy) (nic : Nic) (ip : Address) : Prop :=
  if p.bySubnet then ∃ net, p.externalSubnet = some net ∧ net.contains ip.unmap = true
  else if p.namesNetwork then
    p.isExternalNetwork nic.network = true ∧ p.isInternalNetwork nic.network = false
  else True

/-- What an interface gives when it is asked for addresses of the given families. -/
def offer (p : AddressPolicy) (families : List Family) (nic : Nic) : List NodeAddress :=
  match nic.routable? with
  | none => []
  | some ip =>
    if p.skips nic ∨ ip.family ∉ families then []
    else (p.kinds nic.network ip).map fun kind => ⟨kind, ip.render⟩

/-- An interface has an address of one of the families, and the rules make it one of the node's. -/
def Answers (p : AddressPolicy) (families : List Family) (nic : Nic) : Prop :=
  ∃ ip, nic.routable? = some ip ∧ ip.family ∈ families ∧ (p.Internal nic ip ∨ p.External nic ip)

/-- An earlier interface has such an address, and the address of this one is not of the first family. -/
def PassedOver (p : AddressPolicy) (families : List Family) (before : List Nic) (nic : Nic) : Prop :=
  (∃ n ∈ before, p.Answers families n) ∧
    ∀ ip, nic.routable? = some ip → families.head? ≠ some ip.family

theorem holds_iff {net : Option Subnet} :
    holds net ip = true ↔ ∃ n, net = some n ∧ n.contains ip = true := by
  cases net <;> simp [holds]

theorem isInternalNetwork_of_not_namesNetwork (h : p.namesNetwork = false) (name : String) :
    p.isInternalNetwork name = false := by
  simp only [namesNetwork, Bool.or_eq_false_iff] at h
  simp [isInternalNetwork, h.1]

theorem isExternalNetwork_of_not_namesNetwork (h : p.namesNetwork = false) (name : String) :
    p.isExternalNetwork name = false := by
  simp only [namesNetwork, Bool.or_eq_false_iff] at h
  simp [isExternalNetwork, h.2]

theorem hostname_not_mem_kinds (network : String) : .hostname ∉ p.kinds network ip := by
  unfold kinds
  split_ifs <;> simp

theorem mem_kinds_iff (ip : Address) (hskip : p.skips nic = false) :
    (.internal ∈ p.kinds nic.network ip ↔ p.Internal nic ip) ∧
      (.external ∈ p.kinds nic.network ip ↔ p.External nic ip) := by
  unfold kinds Internal External
  by_cases hsubnet : p.bySubnet = true
  · simp only [hsubnet, if_true, List.mem_append, ← holds_iff]
    constructor
    · cases holds p.internalSubnet ip.unmap <;> cases holds p.externalSubnet ip.unmap <;> simp
    · cases holds p.internalSubnet ip.unmap <;> cases holds p.externalSubnet ip.unmap <;> simp
  · simp only [if_neg hsubnet]
    cases hnames : p.namesNetwork with
    | true =>
      have hone : p.isInternalNetwork nic.network = true ∨
          p.isExternalNetwork nic.network = true := by
        unfold skips at hskip
        simp only [hsubnet, hnames] at hskip
        by_contra hnone
        simp only [not_or, Bool.not_eq_true] at hnone
        simp [hnone.1, hnone.2] at hskip
      cases hi : p.isInternalNetwork nic.network with
      | true => simp
      | false =>
        rw [hi] at hone
        have he := hone.resolve_left Bool.false_ne_true
        simp [he]
    | false =>
      have hi := isInternalNetwork_of_not_namesNetwork hnames nic.network
      have he := isExternalNetwork_of_not_namesNetwork hnames nic.network
      simp [hi, he]

theorem no_kind_of_skips (ip : Address) (hskip : p.skips nic = true) :
    ¬ p.Internal nic ip ∧ ¬ p.External nic ip := by
  unfold skips at hskip
  simp only [Bool.and_eq_true, Bool.not_eq_true'] at hskip
  obtain ⟨⟨⟨hsubnet, hnames⟩, hi⟩, he⟩ := hskip
  unfold Internal External
  simp [hsubnet, hnames, hi, he]

theorem mem_offer_iff (hip : nic.routable? = some ip) (hfamily : ip.family ∈ families) :
    (⟨.internal, ip.render⟩ ∈ p.offer families nic ↔ p.Internal nic ip) ∧
      (⟨.external, ip.render⟩ ∈ p.offer families nic ↔ p.External nic ip) := by
  unfold offer
  rw [hip]
  cases hskip : p.skips nic with
  | true =>
    obtain ⟨hi, he⟩ := no_kind_of_skips ip hskip
    simp [hi, he]
  | false =>
    obtain ⟨hi, he⟩ := mem_kinds_iff ip hskip
    simp [hfamily, ← hi, ← he]

/-- What an interface offers is its address, as one of the kinds that the rules give it. -/
theorem cases_of_mem_offer (ha : a ∈ p.offer families nic) :
    ∃ ip, nic.routable? = some ip ∧ ip.family ∈ families ∧ a.address = ip.render ∧
      (a.kind = .internal ∧ p.Internal nic ip ∨ a.kind = .external ∧ p.External nic ip) := by
  have hoffer := ha
  unfold offer at ha
  split at ha
  · cases ha
  · rename_i ip hip
    split_ifs at ha with hnone
    · cases ha
    · obtain ⟨-, hfamily⟩ := not_or.mp hnone
      rw [not_not] at hfamily
      obtain ⟨hi, he⟩ := mem_offer_iff (p := p) hip hfamily
      obtain ⟨kind, hkind, rfl⟩ := List.mem_map.mp ha
      refine ⟨ip, hip, hfamily, rfl, ?_⟩
      cases kind with
      | hostname => exact absurd hkind (hostname_not_mem_kinds _)
      | internal => exact .inl ⟨rfl, hi.mp hoffer⟩
      | external => exact .inr ⟨rfl, he.mp hoffer⟩

theorem offer_ne_nil_iff : p.offer families nic ≠ [] ↔ p.Answers families nic := by
  unfold Answers
  constructor
  · intro hsome
    obtain ⟨b, hb⟩ := List.exists_mem_of_ne_nil _ hsome
    obtain ⟨ip, hip, hfamily, -, hkind⟩ := cases_of_mem_offer hb
    exact ⟨ip, hip, hfamily, hkind.imp And.right And.right⟩
  · rintro ⟨ip, hip, hfamily, hkind⟩
    obtain ⟨hi, he⟩ := mem_offer_iff (p := p) hip hfamily
    rcases hkind with hkind | hkind
    · exact List.ne_nil_of_mem (hi.mpr hkind)
    · exact List.ne_nil_of_mem (he.mpr hkind)

/-- Asked for the first family only, an interface offers the same if its address is of that family,
and else nothing. -/
theorem mem_offer_take_one_iff :
    a ∈ p.offer (families.take 1) nic ↔
      a ∈ p.offer families nic ∧ ∃ ip, nic.routable? = some ip ∧ families.head? = some ip.family := by
  unfold offer
  cases hip : nic.routable? with
  | none => simp
  | some ip =>
    cases families with
    | nil => simp
    | cons f fs =>
      simp only [List.take_succ_cons, List.take_zero, List.mem_cons, List.head?_cons, Option.some.injEq,
        exists_eq_left']
      by_cases hf : ip.family = f
      · simp [hf]
      · simp [hf, Ne.symm hf]

/-! ## One interface after another -/

theorem mem_pushNew_iff {as : List NodeAddress} {b : NodeAddress} :
    a ∈ pushNew as b ↔ a ∈ as ∨ a = b := by
  unfold pushNew
  split_ifs with h
  · constructor
    · exact .inl
    · rintro (hmem | rfl)
      · exact hmem
      · exact h
  · rw [List.mem_append, List.mem_singleton]

/-- Appends addresses in their order unless they are there already. -/
def pushAllNew (as bs : List NodeAddress) : List NodeAddress := bs.foldl pushNew as

theorem mem_pushAllNew_iff {as bs : List NodeAddress} : a ∈ pushAllNew as bs ↔ a ∈ as ∨ a ∈ bs := by
  induction bs generalizing as with
  | nil => simp [pushAllNew]
  | cons b bs ih =>
    have hcons : pushAllNew as (b :: bs) = pushAllNew (pushNew as b) bs := rfl
    rw [hcons, ih, mem_pushNew_iff, List.mem_cons, or_assoc]

/-- A selection takes what is offered. -/
def Selection.take (s : Selection) (offered : List NodeAddress) : Selection :=
  ⟨pushAllNew s.list offered, s.found || !offered.isEmpty⟩

theorem Selection.take_nil (s : Selection) : s.take [] = s := by
  simp [take, pushAllNew]

theorem foldl_kinds (s : Selection) (ip : Address) (kinds : List AddressKind) :
    kinds.foldl (fun s kind => ⟨pushNew s.list ⟨kind, ip.render⟩, true⟩) s =
      s.take (kinds.map fun kind => ⟨kind, ip.render⟩) := by
  induction kinds generalizing s with
  | nil => exact (Selection.take_nil s).symm
  | cons kind kinds ih =>
    rw [List.foldl_cons, ih]
    simp [Selection.take, pushAllNew]

/-- One family at a time, an interface is asked for what it offers of that family. -/
theorem selectFamily_eq (hskip : p.skips nic = false) (s : Selection) (f : Family) :
    p.selectFamily nic s f = s.take (p.offer [f] nic) := by
  unfold selectFamily offer
  rw [Family.routable_nic]
  cases hip : nic.routable? with
  | none => exact (Selection.take_nil s).symm
  | some ip =>
    by_cases hf : f.includes ip = true
    · have hfamily : ip.family = f := (Family.includes_iff.mp hf).symm
      rw [Option.filter_some_pos hf, Option.toList_some, List.foldl_cons, List.foldl_nil, foldl_kinds]
      simp [hskip, hfamily]
    · have hfamily : ip.family ≠ f := fun h => hf (Family.includes_iff.mpr h.symm)
      rw [Option.filter_some_neg (by simpa using hf), Option.toList_none, List.foldl_nil]
      simp [hfamily, Selection.take_nil]

/-- An interface whose address is not of the first family is left with the others. -/
theorem offer_cons (f : Family) (fs : List Family) :
    p.offer (f :: fs) nic = if p.offer [f] nic = [] then p.offer fs nic else p.offer [f] nic := by
  unfold offer
  cases hip : nic.routable? with
  | none => simp
  | some ip =>
    by_cases hf : ip.family = f
    · -- If nothing is offered of the right family, the interface is skipped or its address has no kind.
      cases hskip : p.skips nic with
      | true => simp
      | false => cases hkinds : p.kinds nic.network ip <;> simp [hf, hkinds]
    · simp [hf]

/-- The families are tried until something is offered: before anything has been found, all of them,
and afterwards only the first. -/
theorem selectNic_eq (hskip : p.skips nic = false) (s : Selection) (families : List Family) :
    p.selectNic nic s families =
      s.take (p.offer (if s.found then families.take 1 else families) nic) := by
  induction families with
  | nil =>
    have hnothing : p.offer [] nic = [] := by
      unfold offer
      cases nic.routable? <;> simp
    simp [selectNic, hnothing, Selection.take_nil]
  | cons f fs ih =>
    unfold selectNic
    simp only [selectFamily_eq hskip]
    cases hfound : s.found with
    | true => simp [Selection.take, hfound]
    | false =>
      rw [hfound] at ih
      rw [if_neg Bool.false_ne_true, offer_cons f fs]
      by_cases hnone : p.offer [f] nic = []
      · rw [if_pos hnone, hnone, Selection.take_nil, hfound, if_neg Bool.false_ne_true, ih]
        rfl
      · have hsome : (s.take (p.offer [f] nic)).found = true := by
          simp [Selection.take, hnone]
        rw [if_neg hnone, if_pos hsome]

theorem offer_of_skips (hskip : p.skips nic = true) (families : List Family) :
    p.offer families nic = [] := by
  unfold offer
  cases nic.routable? <;> simp [hskip]

/-- An interface takes its turn: once something has been found, it is asked for the first family only. -/
def turn (p : AddressPolicy) (families : List Family) (s : Selection) (nic : Nic) : Selection :=
  s.take (p.offer (if s.found then families.take 1 else families) nic)

theorem select_eq (p : AddressPolicy) (vm : Machine) (families : List Family) :
    p.select vm families =
      (vm.nics.foldl (p.turn families) ⟨[⟨.hostname, vm.name⟩], false⟩).list := by
  have hturn (s : Selection) (nic : Nic) :
      (if p.skips nic then s else p.selectNic nic s families) = p.turn families s nic := by
    unfold turn
    cases hskip : p.skips nic with
    | true => rw [if_pos rfl, offer_of_skips hskip, Selection.take_nil]
    | false => rw [if_neg Bool.false_ne_true, selectNic_eq hskip]
  unfold select
  simp only [hturn]

/-- Whether something has been found is whether some interface had an answer. -/
theorem found_foldl_turn {nics : List Nic} {s : Selection} :
    (nics.foldl (p.turn families) s).found = true ↔
      s.found = true ∨ ∃ n ∈ nics, p.Answers families n := by
  induction nics generalizing s with
  | nil => simp
  | cons n nics ih =>
    rw [List.foldl_cons, ih, List.exists_mem_cons_iff, ← or_assoc]
    refine or_congr_left ?_
    cases hfound : s.found with
    | true => simp [turn, Selection.take, hfound]
    | false => simp [turn, Selection.take, hfound, ← offer_ne_nil_iff]

theorem mem_turn_iff {s : Selection} :
    a ∈ (p.turn families s nic).list ↔
      a ∈ s.list ∨ a ∈ p.offer families nic ∧
        (s.found = true → ∃ ip, nic.routable? = some ip ∧ families.head? = some ip.family) := by
  unfold turn Selection.take
  rw [mem_pushAllNew_iff]
  refine or_congr_right ?_
  cases s.found with
  | false => simp
  | true => simp [mem_offer_take_one_iff]

/-- The selection holds the name, and what interfaces that were not passed over have offered. -/
theorem mem_select_iff :
    a ∈ p.select vm families ↔
      a = ⟨.hostname, vm.name⟩ ∨ ∃ before nic after, vm.nics = before ++ nic :: after ∧
        ¬ p.PassedOver families before nic ∧ a ∈ p.offer families nic := by
  rw [select_eq]
  -- From the end, as what comes before an interface decides whether it is passed over.
  induction vm.nics using List.reverseRecOn with
  | nil => simp
  | append_singleton nics nic ih =>
    have hturn (hoffer : a ∈ p.offer families nic) :
        ((nics.foldl (p.turn families) ⟨[⟨.hostname, vm.name⟩], false⟩).found = true →
            ∃ ip, nic.routable? = some ip ∧ families.head? = some ip.family) ↔
          ¬ p.PassedOver families nics nic := by
      rw [found_foldl_turn, PassedOver]
      simp
    rw [List.foldl_append, List.foldl_cons, List.foldl_nil, mem_turn_iff, ih, or_assoc]
    refine or_congr_right ?_
    constructor
    · rintro (⟨before, n, after, rfl, hpassed, hoffer⟩ | ⟨hoffer, hpassed⟩)
      · exact ⟨before, n, after ++ [nic], by simp, hpassed, hoffer⟩
      · exact ⟨nics, nic, [], rfl, (hturn hoffer).mp hpassed, hoffer⟩
    · rintro ⟨before, n, after, hsplit, hpassed, hoffer⟩
      rcases List.eq_nil_or_concat after with rfl | ⟨rest, last, rfl⟩
      · obtain ⟨rfl, hn⟩ := List.append_inj' hsplit rfl
        obtain rfl := List.head_eq_of_cons_eq hn
        exact .inr ⟨hoffer, (hturn hoffer).mpr hpassed⟩
      · rw [List.concat_eq_append, ← List.cons_append, ← List.append_assoc] at hsplit
        exact .inl ⟨before, n, rest, (List.append_inj' hsplit rfl).1, hpassed, hoffer⟩

/-- An interface alone is never passed over. -/
theorem mem_select_alone_iff :
    a ∈ p.select { vm with nics := [nic] } families ↔
      a = ⟨.hostname, vm.name⟩ ∨ a ∈ p.offer families nic := by
  rw [mem_select_iff]
  refine or_congr_right ?_
  constructor
  · rintro ⟨before, n, after, hsplit, -, hoffer⟩
    obtain ⟨-, rfl, -⟩ := List.append_eq_singleton_iff.mp hsplit.symm |>.resolve_right (by simp)
    exact hoffer
  · intro hoffer
    exact ⟨[], nic, [], rfl, by simp [PassedOver], hoffer⟩

/-! ## All interfaces -/

/-- The rules decide what an interface gives alone. A machine has its name, and what its interfaces
give alone unless they are passed over. If all addresses that are asked for are of the first family,
none is passed over, whatever the order of the interfaces. -/
theorem selects_unless_passed_over (p : AddressPolicy) (vm : Machine) (families : List Family) :
    (∀ nic ip, nic.routable? = some ip → ip.family ∈ families →
      (⟨.internal, ip.render⟩ ∈ p.select { vm with nics := [nic] } families ↔ p.Internal nic ip) ∧
      (⟨.external, ip.render⟩ ∈ p.select { vm with nics := [nic] } families ↔
        p.External nic ip)) ∧
    (∀ a, a ∈ p.select vm families ↔
      a = ⟨.hostname, vm.name⟩ ∨ ∃ before nic after, vm.nics = before ++ nic :: after ∧
        ¬ p.PassedOver families before nic ∧ a ∈ p.select { vm with nics := [nic] } families) ∧
    ((∀ nic ∈ vm.nics, ∀ ip, nic.routable? = some ip → ip.family ∈ families →
        families.head? = some ip.family) →
      ∀ nics, nics.Perm vm.nics → ∀ a, a ∈ p.select { vm with nics := nics } families ↔
        a = ⟨.hostname, vm.name⟩ ∨
          ∃ nic ∈ vm.nics, a ∈ p.select { vm with nics := [nic] } families) := by
  refine ⟨fun nic ip hip hfamily => ?_, fun a => ?_, fun hfirst nics hperm a => ?_⟩
  · simp only [mem_select_alone_iff, NodeAddress.mk.injEq, reduceCtorEq, false_and, false_or]
    exact mem_offer_iff hip hfamily
  · rw [mem_select_iff]
    simp only [mem_select_alone_iff]
    constructor
    · rintro (rfl | ⟨before, nic, after, hsplit, hpassed, hoffer⟩)
      · exact .inl rfl
      · exact .inr ⟨before, nic, after, hsplit, hpassed, .inr hoffer⟩
    · rintro (rfl | ⟨before, nic, after, hsplit, hpassed, rfl | hoffer⟩)
      · exact .inl rfl
      · exact .inl rfl
      · exact .inr ⟨before, nic, after, hsplit, hpassed, hoffer⟩
  · rw [mem_select_iff]
    simp only [mem_select_alone_iff]
    constructor
    · rintro (rfl | ⟨before, nic, after, hsplit, -, hoffer⟩)
      · exact .inl rfl
      · refine .inr ⟨nic, hperm.mem_iff.mp ?_, .inr hoffer⟩
        rw [hsplit]
        exact List.mem_append_right _ List.mem_cons_self
    · rintro (rfl | ⟨nic, hnic, rfl | hoffer⟩)
      · exact .inl rfl
      · exact .inl rfl
      · obtain ⟨before, after, hsplit⟩ := List.append_of_mem (hperm.mem_iff.mpr hnic)
        obtain ⟨ip, hip, hfamily, -⟩ := offer_ne_nil_iff.mp (List.ne_nil_of_mem hoffer)
        refine .inr ⟨before, nic, after, hsplit, ?_, hoffer⟩
        rintro ⟨-, hother⟩
        exact hother ip hip (hfirst nic hnic ip hip hfamily)

/-- Internal addresses are IPv4, external ones IPv6. -/
def dual : AddressPolicy :=
  ⟨Subnet.parse? "10.0.0.0/8", Subnet.parse? "2001:db8::/32", "", ""⟩

def internalNic : Nic := { (default : Nic) with network := "a", address := "10.0.0.8" }

def externalNic : Nic := { (default : Nic) with network := "b", address := "2001:db8::9" }

/-- Alone, the external interface gives its external address; and if only IPv6 addresses are asked for,
it makes no difference which interface comes first. -/
theorem selects_unless_passed_over_dual :
    ⟨.external, "2001:db8::9"⟩ ∈
        dual.select { (default : Machine) with nics := [externalNic] } [.ipv4, .ipv6] ∧
      ∀ a, a ∈ dual.select { (default : Machine) with nics := [externalNic, internalNic] } [.ipv6] ↔
        a = ⟨.hostname, ""⟩ ∨ ∃ nic ∈ [internalNic, externalNic],
          a ∈ dual.select { (default : Machine) with nics := [nic] } [.ipv6] := by
  let vm : Machine := { (default : Machine) with nics := [internalNic, externalNic] }
  constructor
  · obtain ⟨halone, -⟩ := selects_unless_passed_over dual vm [.ipv4, .ipv6]
    have hip : externalNic.routable? = some ((Address.parse? "2001:db8::9").get (by decide +kernel)) := by
      decide +kernel
    have hrender : ((Address.parse? "2001:db8::9").get (by decide +kernel)).render = "2001:db8::9" := by
      decide +kernel
    rw [← hrender]
    refine (halone externalNic _ hip (by decide +kernel)).2.mpr ?_
    rw [External, if_pos (by decide +kernel)]
    exact ⟨(Subnet.parse? "2001:db8::/32").get (by decide +kernel), by decide +kernel,
      by decide +kernel⟩
  · obtain ⟨-, -, hall⟩ := selects_unless_passed_over dual vm [.ipv6]
    refine hall (fun _ _ ip _ hfamily => ?_) [externalNic, internalNic] (List.Perm.swap _ _ _)
    rw [List.mem_singleton.mp hfamily]
    rfl

/-- The address of the second interface is an external one for the rules, and it is selected from the
interface alone and with the interfaces the other way round. Behind the first interface, it is not. -/
theorem exists_passed_over :
    ∃ ip, externalNic.routable? = some ip ∧ ip.family ∈ [Family.ipv4, .ipv6] ∧
      dual.External externalNic ip ∧
      dual.select { (default : Machine) with nics := [externalNic] } [.ipv4, .ipv6] =
        [⟨.hostname, ""⟩, ⟨.external, ip.render⟩] ∧
      dual.select { (default : Machine) with nics := [externalNic, internalNic] } [.ipv4, .ipv6] =
        [⟨.hostname, ""⟩, ⟨.external, ip.render⟩, ⟨.internal, "10.0.0.8"⟩] ∧
      dual.select { (default : Machine) with nics := [internalNic, externalNic] } [.ipv4, .ipv6] =
        [⟨.hostname, ""⟩, ⟨.internal, "10.0.0.8"⟩] := by
  refine ⟨(Address.parse? "2001:db8::9").get (by decide +kernel), ?_, ?_, ?_, ?_, ?_, ?_⟩
  · decide +kernel
  · decide +kernel
  · rw [External, if_pos (by decide +kernel)]
    exact ⟨(Subnet.parse? "2001:db8::/32").get (by decide +kernel), by decide +kernel,
      by decide +kernel⟩
  · decide +kernel
  · decide +kernel
  · decide +kernel

end AddressPolicy

end NodeAtlas
