import NodeAtlas.Error
import NodeAtlas.Net.Address

/-!
# Address families

The two families of IP addresses, their priority lists, and the routable addresses of one family
among given texts. An IPv6 address that embeds an IPv4 address counts as IPv4.
-/

namespace NodeAtlas.Net

open NodeAtlas.Text

/-- An address family. -/
inductive Family where
  /-- IPv4, embedded addresses included. -/
  | ipv4
  /-- IPv6 without embedded IPv4 addresses. -/
  | ipv6
  deriving DecidableEq, Repr

namespace Family

/-- The word for the family in logs. -/
def word : Family → String
  | ipv4 => "Ipv4"
  | ipv6 => "Ipv6"

def name : Family → String
  | ipv4 => "ipv4"
  | ipv6 => "ipv6"

/-- The address belongs to the family. -/
def includes : Family → Address → Bool
  | ipv4, .v4 _ => true
  | ipv4, .v6 ip => ip.mapped?.isSome
  | ipv6, .v6 ip => ip.mapped?.isNone
  | ipv6, .v4 _ => false

/-- Reads a family name, blank characters around it and the case of its letters ignored. -/
def parse (s : String) : Result Family :=
  let token := asciiLower (trim s)
  if token = "ipv4" then .ok ipv4
  else if token = "ipv6" then .ok ipv6
  else .error (.invalidConfiguration ("invalid IP family: '" ++ token ++ "'"))

/-- Appends the families that the tokens name to those found so far, each family once. -/
def collect (found : List Family) : List String → Result (List Family)
  | [] => .ok found
  | t :: ts =>
    if (trim t).isEmpty then collect found ts
    else
      match parse t with
      | .error e => .error e
      | .ok f => collect (if f ∈ found then found else found ++ [f]) ts

/-- Reads a priority list. Blank tokens are skipped, a family counts where it comes first, and an
empty list means IPv4. -/
def parsePriority (tokens : List String) : Result (List Family) :=
  match collect [] tokens with
  | .error e => .error e
  | .ok [] => .ok [ipv4]
  | .ok fs => .ok fs

/-- Reads a priority list whose tokens are separated by commas. -/
def parseList (s : String) : Result (List Family) :=
  parsePriority (split ',' s)

/-- The routable addresses of the family among the texts, in their order. -/
def routable (f : Family) (texts : List String) : List Address :=
  texts.filterMap fun s =>
    if isLocalOnly (trim s) then none
    else (Address.parse? (trim s)).filter f.includes

end Family

end NodeAtlas.Net
