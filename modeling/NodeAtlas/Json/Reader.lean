import NodeAtlas.Json.Basic
import NodeAtlas.Text.Ascii

/-!
# Reading JSON

The strict grammar: no comments, no trailing commas, no leading zeros, no bare control characters in
strings, and nothing but blanks behind the value.
-/

namespace NodeAtlas.Json

open NodeAtlas.Text

/-- The four blank characters of the grammar. -/
def isSpace (c : Char) : Bool := c == ' ' || c == '\t' || c == '\n' || c == '\r'

/-- Skips blanks. -/
def skip (cs : List Char) : List Char := cs.dropWhile isSpace

/-! ## Strings -/

/-- The character that a one-letter escape stands for. -/
def escape? : Char → Option Char
  | '"' => some '"'
  | '\\' => some '\\'
  | '/' => some '/'
  | 'b' => some '\x08'
  | 'f' => some '\x0c'
  | 'n' => some '\n'
  | 'r' => some '\r'
  | 't' => some '\t'
  | _ => none

/-- The number written by four hexadecimal digits. -/
def hex4? : Char → Char → Char → Char → Option Nat
  | a, b, c, d => do
    return (((← digit? 16 a) * 16 + (← digit? 16 b)) * 16 + (← digit? 16 c)) * 16 + (← digit? 16 d)

/-- The first half of a surrogate pair. -/
def isHighHalf (n : Nat) : Bool := 0xD800 ≤ n && n < 0xDC00

/-- The second half of a surrogate pair. -/
def isLowHalf (n : Nat) : Bool := 0xDC00 ≤ n && n < 0xE000

/-- One item of a string: a 16-bit code unit given by an escape, or a character. -/
inductive Unit16 where
  /-- A code unit given by its number. -/
  | code (n : Nat)
  /-- A character given as it is. -/
  | char (c : Char)

/-- Reads the items of a string up to its closing quote. -/
def readUnits : List Char → Option (List Unit16 × List Char)
  | [] => none
  | '"' :: rest => some ([], rest)
  | '\\' :: 'u' :: a :: b :: c :: d :: rest =>
    match hex4? a b c d, readUnits rest with
    | some n, some (us, rest) => some (.code n :: us, rest)
    | _, _ => none
  | '\\' :: e :: rest =>
    match escape? e, readUnits rest with
    | some c, some (us, rest) => some (.char c :: us, rest)
    | _, _ => none
  | c :: rest =>
    if c.toNat < 32 || c == '\\' then none
    else (readUnits rest).map fun r => (.char c :: r.1, r.2)

/-- The text that the items denote, unless half of a surrogate pair is alone. -/
def decodeUnits : List Unit16 → Option (List Char)
  | [] => some []
  | .char c :: us => (decodeUnits us).map (c :: ·)
  | .code h :: .code l :: us =>
    if isHighHalf h then
      if isLowHalf l then
        (decodeUnits us).map (Char.ofNat (0x10000 + (h - 0xD800) * 0x400 + (l - 0xDC00)) :: ·)
      else none
    else if isLowHalf h then none
    else (decodeUnits (.code l :: us)).map (Char.ofNat h :: ·)
  | .code n :: us =>
    if isHighHalf n || isLowHalf n then none else (decodeUnits us).map (Char.ofNat n :: ·)

/-- Reads a string behind its opening quote; the text is absent if the string denotes none. -/
def readText (cs : List Char) : Option (Option String × List Char) :=
  (readUnits cs).map fun r => ((decodeUnits r.1).map String.ofList, r.2)

/-! ## Numbers -/

/-- The digits at the front, and what follows them. -/
def takeDigits (cs : List Char) : List Char × List Char :=
  (cs.takeWhile isDigit, cs.dropWhile isDigit)

/-- Skips a fraction, if there is one; it has at least one digit. -/
def skipFraction : List Char → Option (Bool × List Char)
  | '.' :: cs =>
    let (ds, rest) := takeDigits cs
    if ds.isEmpty then none else some (true, rest)
  | cs => some (false, cs)

/-- Skips an exponent, if there is one; it has at least one digit. -/
def skipExponent : List Char → Option (Bool × List Char)
  | e :: cs =>
    if e = 'e' ∨ e = 'E' then
      let body := match cs with
        | '+' :: r => r
        | '-' :: r => r
        | r => r
      let (ds, rest) := takeDigits body
      if ds.isEmpty then none else some (true, rest)
    else some (false, e :: cs)
  | [] => some (false, [])

/-- The value of decimal digits. -/
def decimal (ds : List Char) : Nat :=
  ds.foldl (fun acc d => acc * 10 + (d.toNat - '0'.toNat)) 0

/-- Reads the rest of a numeral behind its sign. -/
def readNumeral (negative : Bool) (cs : List Char) : Option (Json × List Char) := do
  let (ds, rest) := takeDigits cs
  if ds.isEmpty || (ds.head? == some '0' && 1 < ds.length) then none
  let (hasFraction, rest) ← skipFraction rest
  let (hasExponent, rest) ← skipExponent rest
  return (if negative || hasFraction || hasExponent then .numeral else .natural (decimal ds), rest)

/-! ## Values -/

/-- Reads the rest of a literal. -/
def readLiteral (literal : String) (v : Json) (cs : List Char) : Option (Json × List Char) :=
  (stripLead? literal.toList cs).map fun rest => (v, rest)

mutual

/-- Reads a value; the fuel bounds the number of values and separators. -/
def readValue : (fuel : Nat) → List Char → Option (Json × List Char)
  | 0, _ => none
  | fuel + 1, cs =>
    match skip cs with
    | '"' :: rest =>
      (readText rest).map fun r => ((match r.1 with | some s => .text s | none => .brokenText), r.2)
    | '[' :: rest =>
      match skip rest with
      | ']' :: rest => some (.array [], rest)
      | _ => (readItems fuel rest).map fun r => (.array r.1, r.2)
    | '\x7b' :: rest =>
      match skip rest with
      | '\x7d' :: rest => some (.object [], rest)
      | _ => (readMembers fuel rest).map fun r => (.object r.1, r.2)
    | '-' :: rest => readNumeral true rest
    | 't' :: rest => readLiteral "rue" (.bool true) rest
    | 'f' :: rest => readLiteral "alse" (.bool false) rest
    | 'n' :: rest => readLiteral "ull" .null rest
    | rest => readNumeral false rest

/-- Reads the items of a list up to its closing bracket. -/
def readItems : (fuel : Nat) → List Char → Option (List Json × List Char)
  | 0, _ => none
  | fuel + 1, cs =>
    match readValue fuel cs with
    | none => none
    | some (v, rest) =>
      match skip rest with
      | ',' :: rest => (readItems fuel rest).map fun r => (v :: r.1, r.2)
      | ']' :: rest => some ([v], rest)
      | _ => none

/-- Reads the members of an object up to its closing brace. -/
def readMembers : (fuel : Nat) → List Char → Option (List (Option String × Json) × List Char)
  | 0, _ => none
  | fuel + 1, cs =>
    match skip cs with
    | '"' :: rest =>
      match readText rest with
      | none => none
      | some (k, rest) =>
        match skip rest with
        | ':' :: rest =>
          match readValue fuel rest with
          | none => none
          | some (v, rest) =>
            match skip rest with
            | ',' :: rest => (readMembers fuel rest).map fun r => ((k, v) :: r.1, r.2)
            | '\x7d' :: rest => some ([(k, v)], rest)
            | _ => none
        | _ => none
    | _ => none

end

/-- Reads a whole text as one value. -/
def parse? (s : String) : Option Json :=
  match readValue (2 * s.toList.length + 1) s.toList with
  | none => none
  | some (v, rest) => if (skip rest).isEmpty then some v else none

end NodeAtlas.Json
