import NodeAtlas.Text.Ascii

/-!
# IPv4 addresses

Four octets, their dotted decimal text, and the address blocks that never leave a machine or its
link.
-/

namespace NodeAtlas.Net

open NodeAtlas.Text

/-- How freely the text of an address may be spelled. -/
structure Spelling where
  /-- An octet may be written with zeros in front. -/
  leadingZeros : Bool
  /-- A double colon may stand for no group at all. -/
  emptyGap : Bool

/-- The spelling of addresses that stand alone. -/
def Spelling.strict : Spelling := ⟨false, false⟩

/-- The spelling of addresses inside a subnet. -/
def Spelling.lenient : Spelling := ⟨true, true⟩

/-- An IPv4 address. -/
structure Ipv4 where
  /-- The first octet. -/
  a : UInt8
  /-- The second octet. -/
  b : UInt8
  /-- The third octet. -/
  c : UInt8
  /-- The fourth octet. -/
  d : UInt8
  deriving DecidableEq, Repr

namespace Ipv4

/-- The address as a 32-bit number. -/
def toNat (ip : Ipv4) : Nat :=
  ((ip.a.toNat * 256 + ip.b.toNat) * 256 + ip.c.toNat) * 256 + ip.d.toNat

/-- The address with the given 32-bit number. -/
def ofNat (n : Nat) : Ipv4 :=
  ⟨.ofNat (n / 16777216), .ofNat (n / 65536), .ofNat (n / 256), .ofNat n⟩

/-- The dotted decimal text. -/
def render (ip : Ipv4) : String :=
  toString ip.a.toNat ++ "." ++ toString ip.b.toNat ++ "." ++ toString ip.c.toNat ++ "." ++
    toString ip.d.toNat

/-- The block 127.0.0.0/8. -/
def isLoopback (ip : Ipv4) : Bool := ip.a == 127

/-- The block 169.254.0.0/16. -/
def isLinkLocal (ip : Ipv4) : Bool := ip.a == 169 && ip.b == 254

/-- The block 224.0.0.0/24. -/
def isLinkLocalMulticast (ip : Ipv4) : Bool := ip.a == 224 && ip.b == 0 && ip.c == 0

/-- The address means nothing beyond its own machine or link. -/
def isLocalOnly (ip : Ipv4) : Bool :=
  ip.isLoopback || ip.isLinkLocal || ip.isLinkLocalMulticast

end Ipv4

def digitsValue (radix : Nat) (ds : List Nat) : Nat :=
  ds.foldl (fun acc d => acc * radix + d) 0

/-- The longest stretch of digits at the front, and what follows it. -/
def takeDigits (radix : Nat) : List Char → List Nat × List Char
  | [] => ([], [])
  | c :: cs =>
    match digit? radix c with
    | some d => (d :: (takeDigits radix cs).1, (takeDigits radix cs).2)
    | none => ([], c :: cs)

/-- Reads a number of one to `width` digits below `bound`. -/
def readNumber? (radix width bound : Nat) (cs : List Char) : Option (Nat × List Char) :=
  let (ds, rest) := takeDigits radix cs
  if ds.isEmpty || width < ds.length || bound ≤ digitsValue radix ds then none
  else some (digitsValue radix ds, rest)

/-- Reads an octet of one to three decimal digits. -/
def readOctet? (spelling : Spelling) (cs : List Char) : Option (UInt8 × List Char) :=
  match readNumber? 10 3 256 cs with
  | none => none
  | some (n, rest) =>
    if spelling.leadingZeros || cs.head? != some '0' || cs.length == rest.length + 1 then
      some (.ofNat n, rest)
    else none

/-- Reads one given character. -/
def readChar? (c : Char) : List Char → Option (List Char)
  | [] => none
  | x :: rest => if x = c then some rest else none

/-- Reads four octets with dots between them. -/
def Ipv4.read? (spelling : Spelling) (cs : List Char) : Option (Ipv4 × List Char) := do
  let (a, cs) ← readOctet? spelling cs
  let cs ← readChar? '.' cs
  let (b, cs) ← readOctet? spelling cs
  let cs ← readChar? '.' cs
  let (c, cs) ← readOctet? spelling cs
  let cs ← readChar? '.' cs
  let (d, cs) ← readOctet? spelling cs
  return (⟨a, b, c, d⟩, cs)

end NodeAtlas.Net
