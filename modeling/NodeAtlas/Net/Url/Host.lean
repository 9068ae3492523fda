import NodeAtlas.Net.Address
import NodeAtlas.Net.Domain.Label
import NodeAtlas.Text.Numeral

/-!
# Hosts of URLs

The host part of a URL. A name whose last label is a number is read as an IPv4 address, in which
each part may be decimal, octal or hexadecimal and the last part fills all remaining octets.
-/

namespace NodeAtlas.Net.Url

open NodeAtlas.Text

/-- Why a text forms no URL. -/
inductive Fault where
  /-- There is no host. -/
  | emptyHost
  /-- A host that ends in a number is no IPv4 address. -/
  | invalidIpv4
  /-- The text between brackets is no IPv6 address. -/
  | invalidIpv6
  /-- The labels do not form a domain name. -/
  | invalidInternationalName
  /-- A character may not stand in a host. -/
  | invalidDomainCharacter
  /-- The port is no number up to 65535. -/
  | invalidPort
  /-- The reference leads to something that is no web address. -/
  | foreignScheme
  deriving DecidableEq, Repr

/-- The fault in words. -/
def Fault.message : Fault → String
  | emptyHost => "empty host"
  | invalidIpv4 => "invalid IPv4 address"
  | invalidIpv6 => "invalid IPv6 address"
  | invalidInternationalName => "invalid international domain name"
  | invalidDomainCharacter => "invalid domain character"
  | invalidPort => "invalid port number"
  | foreignScheme => "unsupported scheme"

inductive Host where
  /-- A domain name in lower case. -/
  | domain (name : String)
  /-- An IPv4 address. -/
  | v4 (ip : Ipv4)
  /-- An IPv6 address. -/
  | v6 (ip : Ipv6)
  deriving DecidableEq, Repr

/-- The host as it is written in a URL. -/
def Host.render : Host → String
  | domain name => name
  | v4 ip => ip.render
  | v6 ip => "[" ++ ip.renderCompressed ++ "]"

/-- One part of a numeric host. -/
inductive Part where
  /-- A number below 2^32. -/
  | number (n : Nat)
  /-- A number too great for an address. -/
  | overflow
  deriving DecidableEq, Repr

/-- Reads digits of a radix as a part; no digits stand for zero. -/
def readPart? (radix : Nat) (ds : List Char) : Option Part :=
  if ds.all fun c => (digit? radix c).isSome then
    match readDigits radix 0xffffffff 0 ds with
    | .ok n => some (.number n)
    | .error _ => some .overflow
  else none

/-- Reads a part: `0x` introduces hexadecimal digits and another leading zero octal ones. -/
def Part.parse? : List Char → Option Part
  | [] => none
  | '0' :: 'x' :: ds | '0' :: 'X' :: ds => readPart? 16 ds
  | '0' :: d :: ds => readPart? 8 (d :: ds)
  | ds => readPart? 10 ds

/-- The labels of a host; one empty label at the end does not count. -/
def hostLabels (cs : List Char) : List (List Char) :=
  match (pieces '.' cs).reverse with
  | [] :: l :: ls => (l :: ls).reverse
  | ls => ls.reverse

/-- The last label is a number. -/
def endsInNumber (cs : List Char) : Bool :=
  match (hostLabels cs).getLast? with
  | none | some [] => false
  | some l => l.all isDigit || (Part.parse? l).isSome

/-- The numbers of all parts, if each is one. -/
def partNumbers? : List (List Char) → Option (List Nat)
  | [] => some []
  | l :: ls =>
    match Part.parse? l, partNumbers? ls with
    | some (.number n), some ns => some (n :: ns)
    | _, _ => none

/-- The address with the given parts: all but the last are octets, the last fills what remains. -/
def ipv4OfParts? (ns : List Nat) : Option Ipv4 :=
  match ns.reverse with
  | [] => none
  | last :: init =>
    let octets := init.reverse
    if 4 < ns.length || octets.any (255 < ·) || 1 <<< (8 * (4 - octets.length)) ≤ last then none
    else some (.ofNat (digitsValue 256 octets <<< (8 * (4 - octets.length)) + last))

/-- Characters that no domain name holds. Letters outside ASCII have to be encoded beforehand. -/
def isForbidden (c : Char) : Bool :=
  c.toNat < 33 || 126 < c.toNat || "#/:<>?@[\\]^|%".toList.contains c

/-- Reads the host of a URL. -/
def Host.parse (s : String) : Except Fault Host :=
  match s.toList with
  | [] => .error .emptyHost
  | '[' :: cs =>
    match cs.getLast?, Ipv6.read? .strict cs.dropLast with
    | some ']', some (ip, []) => .ok (.v6 ip)
    | _, _ => .error .invalidIpv6
  | cs =>
    let cs := cs.map Char.toLower
    if cs.any isForbidden then .error .invalidDomainCharacter
    else if !Domain.isName (pieces '.' cs) then .error .invalidInternationalName
    else if endsInNumber cs then
      match (partNumbers? (hostLabels cs)).bind ipv4OfParts? with
      | some ip => .ok (.v4 ip)
      | none => .error .invalidIpv4
    else .ok (.domain (String.ofList cs))

end NodeAtlas.Net.Url
