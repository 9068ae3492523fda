import NodeAtlas.Net.Ipv6
import NodeAtlas.Text.Blank

/-!
# IP addresses

Addresses of either version and the test that tells routable ones from those that mean nothing
beyond their own machine or link.
-/

namespace NodeAtlas.Net

open NodeAtlas.Text

/-- An IP address. -/
inductive Address where
  | v4 (ip : Ipv4)
  | v6 (ip : Ipv6)
  deriving DecidableEq, Repr

namespace Address

/-- The text of the address. -/
def render : Address → String
  | v4 ip => ip.render
  | v6 ip => ip.render

/-- Reads an address from the front of a text. -/
def read? (spelling : Spelling) (cs : List Char) : Option (Address × List Char) :=
  match Ipv4.read? spelling cs with
  | some (ip, rest) => some (v4 ip, rest)
  | none => (Ipv6.read? spelling cs).map fun r => (v6 r.1, r.2)

/-- Reads a whole text as an address. -/
def parse? (s : String) : Option Address :=
  match read? .strict s.toList with
  | some (ip, []) => some ip
  | _ => none

/-- The address means nothing beyond its own machine or link. -/
def isLocalOnly : Address → Bool
  | v4 ip => ip.isLocalOnly
  | v6 ip => ip.isLocalOnly

/-- An embedded IPv4 address in the place of the IPv6 address that embeds it. -/
def unmap : Address → Address
  | v4 ip => v4 ip
  | v6 ip =>
    match ip.mapped? with
    | some v => v4 v
    | none => v6 ip

end Address

/-- The trimmed text is no address that other machines could reach. -/
def isLocalOnly (s : String) : Bool :=
  match Address.parse? (trim s) with
  | some ip => ip.isLocalOnly
  | none => true

end NodeAtlas.Net
