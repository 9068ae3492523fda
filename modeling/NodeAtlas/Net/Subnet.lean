import NodeAtlas.Net.Address

/-!
# Subnets

A block of addresses that share their first bits, written as an address, a slash and the number of
bits.
-/

namespace NodeAtlas.Net

/-- The addresses that agree with `base` in the first `bits` bits. -/
structure Subnet where
  /-- Some address of the block. -/
  base : Address
  /-- The number of bits that count. -/
  bits : Nat
  deriving DecidableEq, Repr

namespace Subnet

/-- The address lies in the block; addresses of the other version never do. -/
def contains (net : Subnet) (ip : Address) : Bool :=
  match net.base, ip with
  | .v4 base, .v4 ip => base.toNat >>> (32 - net.bits) == ip.toNat >>> (32 - net.bits)
  | .v6 base, .v6 ip => base.toNat >>> (128 - net.bits) == ip.toNat >>> (128 - net.bits)
  | _, _ => false

/-- Reads the slash and a bit count of at most `width` digits below `bound`, up to the end. -/
def readBits? (width bound : Nat) (cs : List Char) : Option Nat := do
  let cs ← readChar? '/' cs
  match ← readNumber? 10 width bound cs with
  | (n, []) => some n
  | _ => none

/-- Reads a block of IPv4 addresses. -/
def parseV4? (cs : List Char) : Option Subnet := do
  let (ip, rest) ← Ipv4.read? .lenient cs
  return ⟨.v4 ip, ← readBits? 2 33 rest⟩

/-- Reads a block of IPv6 addresses. -/
def parseV6? (cs : List Char) : Option Subnet := do
  let (ip, rest) ← Ipv6.read? .lenient cs
  return ⟨.v6 ip, ← readBits? 3 129 rest⟩

/-- Reads a whole text as a block of addresses. -/
def parse? (s : String) : Option Subnet :=
  match parseV4? s.toList with
  | some net => some net
  | none => parseV6? s.toList

/-- The subnet as text. -/
def render (net : Subnet) : String := net.base.render ++ "/" ++ toString net.bits

end Subnet

end NodeAtlas.Net
