import Mathlib.Logic.Basic
import NodeAtlas.Net.Family
import NodeAtlas.Net.Subnet

/-!
# Local addresses

The addresses that mean nothing beyond their own machine or link fill a few blocks: loopback, and unicast
and multicast of link scope. The bit tests of a single address find exactly the members of these blocks,
and an IPv6 address that embeds an IPv4 address is judged by what it embeds.
-/

namespace NodeAtlas.Net

/-! ## Embedded addresses -/

/-- The IPv6 address `::ffff:a.b.c.d`. -/
def Ipv4.embed (ip : Ipv4) : Ipv6 :=
  ⟨#v[0, 0, 0, 0, 0, 0xffff, .ofNat (ip.a.toNat * 256 + ip.b.toNat),
    .ofNat (ip.c.toNat * 256 + ip.d.toNat)]⟩

namespace Ipv6

variable {ip : Ipv6} {v : Ipv4}

theorem ext_toList {ip ip' : Ipv6} (h : ip.groups.toList = ip'.groups.toList) : ip = ip' := by
  obtain ⟨gs⟩ := ip
  obtain ⟨gs'⟩ := ip'
  exact congrArg Ipv6.mk (Vector.toList_inj.mp h)

theorem exists_groups (ip : Ipv6) : ∃ a b c d e f g h : UInt16, ip = ⟨#v[a, b, c, d, e, f, g, h]⟩ := by
  have hlength : ip.groups.toList.length = 8 := Vector.length_toList
  match hlist : ip.groups.toList, hlength with
  | [a, b, c, d, e, f, g, h], _ => exact ⟨a, b, c, d, e, f, g, h, ext_toList hlist⟩

theorem toNat_high (g : UInt16) : (g >>> 8).toUInt8.toNat = g.toNat / 256 := by
  have hg : g.toNat < 65536 := g.toNat_lt
  have hshift : (g >>> 8).toNat = g.toNat / 256 := by
    rw [UInt16.toNat_shiftRight, Nat.shiftRight_eq_div_pow]
    rfl
  rw [UInt16.toNat_toUInt8, hshift]
  omega

theorem toNat_low (g : UInt16) : g.toUInt8.toNat = g.toNat % 256 := UInt16.toNat_toUInt8 g

theorem ofNat_octets (g : UInt16) :
    UInt16.ofNat ((g >>> 8).toUInt8.toNat * 256 + g.toUInt8.toNat) = g := by
  have hg : g.toNat < 65536 := g.toNat_lt
  rw [← UInt16.toNat_inj, UInt16.toNat_ofNat', toNat_high, toNat_low]
  omega

theorem octets_ofNat (x y : UInt8) : (UInt16.ofNat (x.toNat * 256 + y.toNat) >>> 8).toUInt8 = x ∧
    (UInt16.ofNat (x.toNat * 256 + y.toNat)).toUInt8 = y := by
  have hx : x.toNat < 256 := x.toNat_lt
  have hy : y.toNat < 256 := y.toNat_lt
  constructor
  · rw [← UInt8.toNat_inj, toNat_high, UInt16.toNat_ofNat']
    omega
  · rw [← UInt8.toNat_inj, toNat_low, UInt16.toNat_ofNat']
    omega

theorem mapped?_embed (v : Ipv4) : v.embed.mapped? = some v := by
  obtain ⟨a, b, c, d⟩ := v
  obtain ⟨ha, hb⟩ := octets_ofNat a b
  obtain ⟨hc, hd⟩ := octets_ofNat c d
  change some (Ipv4.mk _ _ _ _) = _
  rw [ha, hb, hc, hd]

theorem mapped?_eq_some_iff : ip.mapped? = some v ↔ ip = v.embed := by
  constructor
  · intro h
    unfold mapped? at h
    split at h
    · rename_i g g' hlist
      obtain rfl := Option.some.inj h
      refine ext_toList ?_
      simp only [Ipv4.embed, ofNat_octets]
      exact hlist
    · cases h
  · rintro rfl
    exact mapped?_embed v

theorem embed_inj {v v' : Ipv4} : v.embed = v'.embed ↔ v = v' := by
  rw [← mapped?_eq_some_iff, mapped?_embed, Option.some.injEq]

/-! ## Numbers -/

theorem toNat_mk (a b c d e f g h : UInt16) : (⟨#v[a, b, c, d, e, f, g, h]⟩ : Ipv6).toNat =
    (((((((a.toNat * 65536 + b.toNat) * 65536 + c.toNat) * 65536 + d.toNat) * 65536 + e.toNat) * 65536 +
      f.toNat) * 65536 + g.toNat) * 65536 + h.toNat) := by
  change (((((((0 * 65536 + a.toNat) * 65536 + b.toNat) * 65536 + c.toNat) * 65536 + d.toNat) * 65536 +
    e.toNat) * 65536 + f.toNat) * 65536 + g.toNat) * 65536 + h.toNat = _
  rw [Nat.zero_mul, Nat.zero_add]

/-- The first group are the first 16 bits. -/
theorem toNat_shiftRight (ip : Ipv6) : ip.toNat >>> 112 = ip.first.toNat := by
  obtain ⟨a, b, c, d, e, f, g, h, rfl⟩ := exists_groups ip
  have hb : b.toNat < 65536 := b.toNat_lt
  have hc : c.toNat < 65536 := c.toNat_lt
  have hd : d.toNat < 65536 := d.toNat_lt
  have he : e.toNat < 65536 := e.toNat_lt
  have hf : f.toNat < 65536 := f.toNat_lt
  have hg : g.toNat < 65536 := g.toNat_lt
  have hh : h.toNat < 65536 := h.toNat_lt
  rw [toNat_mk, Nat.shiftRight_eq_div_pow]
  change _ = a.toNat
  omega

theorem toNat_eq_one_iff : ip.toNat = 1 ↔ ip.isLoopback = true := by
  obtain ⟨a, b, c, d, e, f, g, h, rfl⟩ := exists_groups ip
  have hlist : (⟨#v[a, b, c, d, e, f, g, h]⟩ : Ipv6).groups.toList = [a, b, c, d, e, f, g, h] := rfl
  rw [toNat_mk, isLoopback, hlist, beq_iff_eq]
  simp only [List.cons.injEq, and_true, ← UInt16.toNat_inj]
  have hone : (1 : UInt16).toNat = 1 := rfl
  have hzero : (0 : UInt16).toNat = 0 := rfl
  rw [hone, hzero]
  omega

end Ipv6

/-! ## Blocks -/

/-- The addresses of a machine for itself. -/
def loopbackBlocks : List Subnet :=
  [⟨.v4 ⟨127, 0, 0, 0⟩, 8⟩, ⟨.v6 ⟨#v[0, 0, 0, 0, 0, 0, 0, 1]⟩, 128⟩]

def linkLocalBlocks : List Subnet :=
  [⟨.v4 ⟨169, 254, 0, 0⟩, 16⟩, ⟨.v6 ⟨#v[0xfe80, 0, 0, 0, 0, 0, 0, 0]⟩, 10⟩]

/-- In IPv6, link scope has a block for each of the 16 combinations of multicast flags. -/
def linkLocalMulticastBlocks : List Subnet :=
  ⟨.v4 ⟨224, 0, 0, 0⟩, 24⟩ :: (List.range 16).map fun flags =>
    ⟨.v6 ⟨#v[.ofNat (0xff02 + 16 * flags), 0, 0, 0, 0, 0, 0, 0]⟩, 16⟩

/-- The blocks of all local addresses. -/
def localBlocks : List Subnet := loopbackBlocks ++ linkLocalBlocks ++ linkLocalMulticastBlocks

example : localBlocks.map Subnet.render = ["127.0.0.0/8", "::1/128", "169.254.0.0/16", "fe80::/10",
    "224.0.0.0/24", "ff02::/16", "ff12::/16", "ff22::/16", "ff32::/16", "ff42::/16", "ff52::/16",
    "ff62::/16", "ff72::/16", "ff82::/16", "ff92::/16", "ffa2::/16", "ffb2::/16", "ffc2::/16", "ffd2::/16",
    "ffe2::/16", "fff2::/16"] := by
  decide +kernel

/-- The address lies in one of the blocks. -/
def Address.LiesIn (ip : Address) (blocks : List Subnet) : Prop := ∃ net ∈ blocks, net.contains ip = true

theorem Address.liesIn_append_iff {ip : Address} {xs ys : List Subnet} :
    ip.LiesIn (xs ++ ys) ↔ ip.LiesIn xs ∨ ip.LiesIn ys := by
  simp [LiesIn, or_and_right, exists_or]

theorem Address.liesIn_cons_iff {ip : Address} {net : Subnet} {nets : List Subnet} :
    ip.LiesIn (net :: nets) ↔ net.contains ip = true ∨ ip.LiesIn nets := by
  simp [LiesIn]

theorem Address.not_liesIn_nil (ip : Address) : ¬ ip.LiesIn [] := by simp [LiesIn]

namespace Subnet

theorem contains_v4_iff {base ip : Ipv4} {bits : Nat} :
    contains ⟨.v4 base, bits⟩ (.v4 ip) = true ↔ base.toNat >>> (32 - bits) = ip.toNat >>> (32 - bits) :=
  beq_iff_eq

theorem contains_v6_iff {base ip : Ipv6} {bits : Nat} :
    contains ⟨.v6 base, bits⟩ (.v6 ip) = true ↔
      base.toNat >>> (128 - bits) = ip.toNat >>> (128 - bits) :=
  beq_iff_eq

end Subnet

namespace Ipv4

variable {ip : Ipv4}

theorem liesIn_loopbackBlocks_iff : (Address.v4 ip).LiesIn loopbackBlocks ↔ ip.isLoopback = true := by
  have ha := ip.a.toNat_lt
  have hb := ip.b.toNat_lt
  have hc := ip.c.toNat_lt
  have hd := ip.d.toNat_lt
  simp only [loopbackBlocks, Address.liesIn_cons_iff, Address.not_liesIn_nil, Subnet.contains_v4_iff,
    isLoopback, beq_iff_eq, ← UInt8.toNat_inj]
  simp [Subnet.contains, toNat]
  omega

theorem liesIn_linkLocalBlocks_iff : (Address.v4 ip).LiesIn linkLocalBlocks ↔ ip.isLinkLocal = true := by
  have ha := ip.a.toNat_lt
  have hb := ip.b.toNat_lt
  have hc := ip.c.toNat_lt
  have hd := ip.d.toNat_lt
  simp only [linkLocalBlocks, Address.liesIn_cons_iff, Address.not_liesIn_nil, Subnet.contains_v4_iff,
    isLinkLocal, Bool.and_eq_true, beq_iff_eq, ← UInt8.toNat_inj]
  simp [Subnet.contains, toNat]
  omega

theorem not_liesIn_v6 {ip : Ipv4} {ι : Type} {xs : List ι} {base : ι → Ipv6} {bits : Nat} :
    ¬ (Address.v4 ip).LiesIn (xs.map fun x => ⟨.v6 (base x), bits⟩) := by
  simp [Address.LiesIn, Subnet.contains]

theorem liesIn_linkLocalMulticastBlocks_iff :
    (Address.v4 ip).LiesIn linkLocalMulticastBlocks ↔ ip.isLinkLocalMulticast = true := by
  have ha := ip.a.toNat_lt
  have hb := ip.b.toNat_lt
  have hc := ip.c.toNat_lt
  have hd := ip.d.toNat_lt
  rw [linkLocalMulticastBlocks, Address.liesIn_cons_iff, or_iff_left not_liesIn_v6, Subnet.contains_v4_iff]
  simp only [isLinkLocalMulticast, Bool.and_eq_true, beq_iff_eq, ← UInt8.toNat_inj]
  simp [toNat]
  omega

theorem liesIn_localBlocks_iff : (Address.v4 ip).LiesIn localBlocks ↔ ip.isLocalOnly = true := by
  rw [localBlocks, Address.liesIn_append_iff, Address.liesIn_append_iff, liesIn_loopbackBlocks_iff,
    liesIn_linkLocalBlocks_iff, liesIn_linkLocalMulticastBlocks_iff, isLocalOnly, Bool.or_eq_true,
    Bool.or_eq_true]

end Ipv4

namespace Ipv6

variable {ip : Ipv6}

/-- A mask whose last bits are unset compares the bits before them. -/
theorem and_ffc0_eq_iff {x : Nat} (hx : x < 65536) : x &&& 0xffc0 = 0xfe80 ↔ x / 64 = 0x3fa := by
  have hlow : (x &&& 0xffc0) % 2 ^ 6 = 0 := by
    rw [Nat.and_mod_two_pow]
    exact Nat.and_zero _
  have hhigh : (x &&& 0xffc0) / 2 ^ 6 = x / 2 ^ 6 % 2 ^ 10 := by
    rw [Nat.and_div_two_pow, ← Nat.and_two_pow_sub_one_eq_mod]
  omega

/-- A mask with a gap compares the bits before and behind the gap. -/
theorem and_ff0f_eq_iff {x : Nat} (hx : x < 65536) :
    x &&& 0xff0f = 0xff02 ↔ x / 256 = 0xff ∧ x % 16 = 2 := by
  have hlow : (x &&& 0xff0f) % 2 ^ 8 = x % 2 ^ 4 := by
    rw [Nat.and_mod_two_pow]
    exact (Nat.and_two_pow_sub_one_eq_mod (x % 2 ^ 8) 4).trans (by omega)
  have hhigh : (x &&& 0xff0f) / 2 ^ 8 = x / 2 ^ 8 % 2 ^ 8 := by
    rw [Nat.and_div_two_pow, ← Nat.and_two_pow_sub_one_eq_mod]
  omega

theorem isLinkLocal_iff : ip.isLinkLocal = true ↔ ip.toNat >>> 118 = 0x3fa := by
  have hshift : ip.toNat >>> 118 = ip.first.toNat / 64 := by
    rw [← toNat_shiftRight]
    omega
  rw [isLinkLocal, beq_iff_eq, ← UInt16.toNat_inj, UInt16.toNat_and, hshift]
  exact and_ffc0_eq_iff ip.first.toNat_lt

theorem isLinkLocalMulticast_iff : ip.isLinkLocalMulticast = true ↔
    ∃ flags < 16, 0xff02 + 16 * flags = ip.toNat >>> 112 := by
  have hfirst := ip.first.toNat_lt
  have hmask : ip.isLinkLocalMulticast = true ↔ ip.first.toNat &&& 0xff0f = 0xff02 := by
    rw [isLinkLocalMulticast, beq_iff_eq, ← UInt16.toNat_inj, UInt16.toNat_and]
    exact .rfl
  rw [hmask, and_ff0f_eq_iff hfirst, toNat_shiftRight]
  constructor
  · rintro ⟨hhigh, hlow⟩
    exact ⟨ip.first.toNat / 16 % 16, Nat.mod_lt _ (by omega), by omega⟩
  · rintro ⟨flags, hflags, heq⟩
    omega

theorem liesIn_loopbackBlocks_iff : (Address.v6 ip).LiesIn loopbackBlocks ↔ ip.isLoopback = true := by
  rw [← toNat_eq_one_iff]
  simp only [loopbackBlocks, Address.liesIn_cons_iff, Address.not_liesIn_nil, Subnet.contains_v6_iff, toNat_mk]
  simp [Subnet.contains, eq_comm]

theorem liesIn_linkLocalBlocks_iff : (Address.v6 ip).LiesIn linkLocalBlocks ↔ ip.isLinkLocal = true := by
  rw [isLinkLocal_iff]
  simp only [linkLocalBlocks, Address.liesIn_cons_iff, Address.not_liesIn_nil, Subnet.contains_v6_iff, toNat_mk]
  simp [Subnet.contains, eq_comm]

theorem liesIn_linkLocalMulticastBlocks_iff :
    (Address.v6 ip).LiesIn linkLocalMulticastBlocks ↔ ip.isLinkLocalMulticast = true := by
  have hother : ∀ base : Ipv4, Subnet.contains ⟨.v4 base, 24⟩ (.v6 ip) = false := fun _ => rfl
  rw [isLinkLocalMulticast_iff, linkLocalMulticastBlocks, Address.liesIn_cons_iff, hother,
    or_iff_right Bool.false_ne_true]
  simp only [Address.LiesIn, List.mem_map, exists_exists_and_eq_and, List.mem_range]
  refine exists_congr fun flags => and_congr_right fun hflags => ?_
  have hbase : ∀ g : UInt16, (⟨#v[g, 0, 0, 0, 0, 0, 0, 0]⟩ : Ipv6).toNat >>> 112 = g.toNat :=
    fun g => toNat_shiftRight _
  have hfits : 0xff02 + 16 * flags < UInt16.size := by
    change _ < 65536
    omega
  rw [Subnet.contains_v6_iff, hbase, UInt16.toNat_ofNat_of_lt' hfits]

theorem liesIn_localBlocks_iff : (Address.v6 ip).LiesIn localBlocks ↔
    (ip.isLoopback || ip.isLinkLocal || ip.isLinkLocalMulticast) = true := by
  rw [localBlocks, Address.liesIn_append_iff, Address.liesIn_append_iff, liesIn_loopbackBlocks_iff,
    liesIn_linkLocalBlocks_iff, liesIn_linkLocalMulticastBlocks_iff, Bool.or_eq_true, Bool.or_eq_true]

/-- An address that embeds an IPv4 address lies in no block itself. -/
theorem not_liesIn_embed (v : Ipv4) : ¬ (Address.v6 v.embed).LiesIn localBlocks := by
  rw [liesIn_localBlocks_iff]
  have hfirst : v.embed.first = 0 := rfl
  have hloopback : v.embed.isLoopback = false := by
    have hlist : v.embed.groups.toList = [0, 0, 0, 0, 0, 0xffff, _, _] := rfl
    rw [isLoopback, hlist, beq_eq_false_iff_ne]
    simp
  rw [isLinkLocal, isLinkLocalMulticast, hfirst, hloopback]
  decide

end Ipv6

namespace Address

/-- The address lies in a local block, or it embeds one that does. -/
def IsLocal (ip : Address) : Prop :=
  ip.LiesIn localBlocks ∨ ∃ v : Ipv4, ip = .v6 v.embed ∧ (v4 v).LiesIn localBlocks

theorem isLocalOnly_embed (v : Ipv4) : (v6 v.embed).isLocalOnly = (v4 v).isLocalOnly := by
  simp only [isLocalOnly, Ipv6.isLocalOnly, Ipv6.mapped?_embed]

theorem isLocalOnly_iff {ip : Address} : ip.isLocalOnly = true ↔ ip.IsLocal := by
  unfold IsLocal
  cases ip with
  | v4 ip =>
    rw [Ipv4.liesIn_localBlocks_iff]
    constructor
    · exact .inl
    · rintro (h | ⟨v, heq, -⟩)
      · exact h
      · cases heq
  | v6 ip =>
    cases hmapped : ip.mapped? with
    | some v =>
      obtain rfl := Ipv6.mapped?_eq_some_iff.mp hmapped
      rw [isLocalOnly_embed, or_iff_right (Ipv6.not_liesIn_embed v)]
      constructor
      · intro h
        exact ⟨v, rfl, Ipv4.liesIn_localBlocks_iff.mpr h⟩
      · rintro ⟨v', heq, h⟩
        rw [← Ipv6.embed_inj.mp (v6.inj heq)] at h
        exact Ipv4.liesIn_localBlocks_iff.mp h
    | none =>
      have hplain : ∀ v : Ipv4, v6 ip ≠ v6 v.embed := by
        rintro v heq
        rw [Ipv6.mapped?_eq_some_iff.mpr (v6.inj heq)] at hmapped
        cases hmapped
      rw [Ipv6.liesIn_localBlocks_iff, isLocalOnly, Ipv6.isLocalOnly, hmapped]
      constructor
      · exact .inl
      · rintro (h | ⟨v, heq, -⟩)
        · exact h
        · exact absurd heq (hplain v)

end Address

end NodeAtlas.Net
