import NodeAtlas.Net.Ipv4

/-!
# IPv6 addresses

Eight groups of 16 bits. The text leaves out the first longest run of at least two zero groups; an
address that embeds an IPv4 address may also be written with its dotted decimal text.
-/

namespace NodeAtlas.Net

open NodeAtlas.Text

/-- An IPv6 address. -/
structure Ipv6 where
  /-- The groups, from the left. -/
  groups : Vector UInt16 8
  deriving DecidableEq, Repr

namespace Ipv6

/-- The address as a 128-bit number. -/
def toNat (ip : Ipv6) : Nat :=
  ip.groups.toList.foldl (fun acc g => acc * 65536 + g.toNat) 0

/-- The address with the given groups, if there are eight of them. -/
def ofList? (gs : List UInt16) : Option Ipv6 :=
  if h : gs.toArray.size = 8 then some ⟨⟨gs.toArray, h⟩⟩ else none

/-- The IPv4 address that an address of the form `::ffff:a.b.c.d` embeds. -/
def mapped? (ip : Ipv6) : Option Ipv4 :=
  match ip.groups.toList with
  | [0, 0, 0, 0, 0, 0xffff, g, h] =>
    some ⟨(g >>> 8).toUInt8, g.toUInt8, (h >>> 8).toUInt8, h.toUInt8⟩
  | _ => none

def first (ip : Ipv6) : UInt16 := ip.groups[0]

/-- The address `::1`. -/
def isLoopback (ip : Ipv6) : Bool := ip.groups.toList == [0, 0, 0, 0, 0, 0, 0, 1]

/-- The block fe80::/10. -/
def isLinkLocal (ip : Ipv6) : Bool := ip.first &&& 0xffc0 == 0xfe80

/-- The multicast groups of link scope, whatever their flags. -/
def isLinkLocalMulticast (ip : Ipv6) : Bool := ip.first &&& 0xff0f == 0xff02

/-- The address means nothing beyond its own machine or link. An embedded IPv4 address is judged as
such. -/
def isLocalOnly (ip : Ipv6) : Bool :=
  match ip.mapped? with
  | some v4 => v4.isLocalOnly
  | none => ip.isLoopback || ip.isLinkLocal || ip.isLinkLocalMulticast

/-! ## Text -/

/-- A run of zero groups: where it starts and how long it is. -/
structure ZeroRun where
  /-- The index of its first group. -/
  start : Nat
  /-- The number of its groups. -/
  length : Nat

/-- The first of the longest zero runs, scanning from group `i` with the run that ends there. -/
def longestZeroRun (i : Nat) (current best : ZeroRun) : List UInt16 → ZeroRun
  | [] => best
  | g :: gs =>
    if g = 0 then
      let run : ZeroRun :=
        if current.length = 0 then ⟨i, 1⟩ else ⟨current.start, current.length + 1⟩
      longestZeroRun (i + 1) run (if best.length < run.length then run else best) gs
    else longestZeroRun (i + 1) ⟨0, 0⟩ best gs

/-- Groups in hexadecimal with colons between them. -/
def renderGroups (gs : List UInt16) : String :=
  ":".intercalate (gs.map fun g => String.ofList (Nat.toDigits 16 g.toNat))

/-- The text in which a double colon replaces the first longest run of two or more zero groups. -/
def renderCompressed (ip : Ipv6) : String :=
  let gs := ip.groups.toList
  let run := longestZeroRun 0 ⟨0, 0⟩ ⟨0, 0⟩ gs
  if 1 < run.length then
    renderGroups (gs.take run.start) ++ "::" ++ renderGroups (gs.drop (run.start + run.length))
  else renderGroups gs

/-- The text of the address; an embedded IPv4 address is shown in dotted decimal. -/
def render (ip : Ipv6) : String :=
  match ip.mapped? with
  | some v4 => "::ffff:" ++ v4.render
  | none => ip.renderCompressed

/-- The two groups that an embedded IPv4 address fills. -/
def groupsOf (v4 : Ipv4) : List UInt16 :=
  [.ofNat (v4.a.toNat * 256 + v4.b.toNat), .ofNat (v4.c.toNat * 256 + v4.d.toNat)]

/-- Some groups read from the front of a text. -/
structure Groups where
  /-- The groups, from the left. -/
  list : List UInt16
  /-- The last two were written in dotted decimal. -/
  dotted : Bool
  /-- The text that follows them. -/
  rest : List Char

/-- Reads at most `room` groups with colons between them. Dotted decimal ends the list and needs
room for two groups. The flag says that the next group is the first one. -/
def readGroups (spelling : Spelling) : (room : Nat) → (first : Bool) → List Char → Groups
  | 0, _, cs => ⟨[], false, cs⟩
  | room + 1, first, cs =>
    match (if first then some cs else readChar? ':' cs) with
    | none => ⟨[], false, cs⟩
    | some body =>
      match (if 0 < room then Ipv4.read? spelling body else none) with
      | some (v4, rest) => ⟨groupsOf v4, true, rest⟩
      | none =>
        match readNumber? 16 4 65536 body with
        | none => ⟨[], false, cs⟩
        | some (g, rest) =>
          let tail := readGroups spelling room false rest
          ⟨.ofNat g :: tail.list, tail.dotted, tail.rest⟩

/-- Reads an address: eight groups, or fewer with a double colon in the place of the
missing ones. -/
def read? (spelling : Spelling) (cs : List Char) : Option (Ipv6 × List Char) := do
  let head := readGroups spelling 8 true cs
  if head.list.length = 8 then
    return (← ofList? head.list, head.rest)
  if head.dotted then none
  let cs ← readChar? ':' head.rest
  let cs ← readChar? ':' cs
  let gap := if spelling.emptyGap then 0 else 1
  let tail := readGroups spelling (8 - (head.list.length + gap)) true cs
  let zeros := List.replicate (8 - head.list.length - tail.list.length) (0 : UInt16)
  return (← ofList? (head.list ++ zeros ++ tail.list), tail.rest)

end Ipv6

end NodeAtlas.Net
