import NodeAtlas.Text.Ascii

/-!
# Percent-encoding

Which characters of a path, a query or a form stand for themselves, and how all others are written
byte by byte.
-/

namespace NodeAtlas.Net.Url

open NodeAtlas.Text

/-- One byte as a percent sign and two upper-case hexadecimal digits. -/
def percentByte (b : UInt8) : List Char :=
  let digit (n : Nat) : Char := Char.ofNat (if n < 10 then '0'.toNat + n else 'A'.toNat + (n - 10))
  ['%', digit (b.toNat / 16), digit (b.toNat % 16)]

/-- The bytes of a character in UTF-8, each percent-encoded. -/
def percentChar (c : Char) : List Char :=
  (String.utf8EncodeChar c).flatMap percentByte

/-- Encodes the characters for which `escape` holds. -/
def percentEncode (escape : Char → Bool) (cs : List Char) : List Char :=
  cs.flatMap fun c => if escape c then percentChar c else [c]

/-- Characters that are never written as they are: controls and everything outside ASCII. -/
def escapesAlways (c : Char) : Bool := c.toNat < 32 || 126 < c.toNat

/-- The characters to encode in a fragment. -/
def escapesInFragment (c : Char) : Bool :=
  escapesAlways c || " \"<>`".toList.contains c

/-- The characters to encode in a path. -/
def escapesInPath (c : Char) : Bool :=
  escapesInFragment c || "#?\x7b\x7d".toList.contains c

/-- The characters to encode in the query of a web address. -/
def escapesInQuery (c : Char) : Bool :=
  escapesAlways c || " \"#<>'".toList.contains c

/-- The characters that stand for themselves in a form. -/
def isFormPlain (c : Char) : Bool :=
  isAlphanumeric c || "*-._".toList.contains c

/-- A text as a form writes it: a space becomes a plus sign. -/
def formEncode (s : String) : List Char :=
  s.toList.flatMap fun c =>
    if c = ' ' then ['+'] else if isFormPlain c then [c] else percentChar c

/-- Pairs as a form writes them. -/
def formPairs (pairs : List (String × String)) : List Char :=
  ['&'].intercalate (pairs.map fun p => formEncode p.1 ++ '=' :: formEncode p.2)

end NodeAtlas.Net.Url
