import NodeAtlas.Json.Basic

/-!
# Writing JSON

The shortest text of a value. Only quotes, backslashes and control characters are escaped.
-/

namespace NodeAtlas.Json

/-- A digit of a lower-case hexadecimal number. -/
def hexDigit (n : Nat) : Char :=
  Char.ofNat (if n < 10 then '0'.toNat + n else 'a'.toNat + (n - 10))

/-- One character inside a string. -/
def escapeChar (c : Char) : List Char :=
  match c with
  | '"' => ['\\', '"']
  | '\\' => ['\\', '\\']
  | '\x08' => ['\\', 'b']
  | '\x0c' => ['\\', 'f']
  | '\n' => ['\\', 'n']
  | '\r' => ['\\', 'r']
  | '\t' => ['\\', 't']
  | c =>
    if c.toNat < 32 then ['\\', 'u', '0', '0', hexDigit (c.toNat / 16), hexDigit (c.toNat % 16)]
    else [c]

/-- A text between quotes. -/
def writeText (s : String) : List Char :=
  '"' :: (s.toList.flatMap escapeChar ++ ['"'])

mutual

/-- The characters of a value. What denotes no text or no natural number is written as `null`. -/
def write : Json → List Char
  | null => "null".toList
  | bool true => "true".toList
  | bool false => "false".toList
  | natural n => Nat.toDigits 10 n
  | numeral => "null".toList
  | text s => writeText s
  | brokenText => "null".toList
  | array [] => ['[', ']']
  | array (v :: vs) => '[' :: (write v ++ writeItems vs)
  | object [] => ['\x7b', '\x7d']
  | object ((k, v) :: ms) =>
    '\x7b' :: (writeText (k.getD "") ++ ':' :: (write v ++ writeMembers ms))

/-- The further items of a list, up to its closing bracket. -/
def writeItems : List Json → List Char
  | [] => [']']
  | v :: vs => ',' :: (write v ++ writeItems vs)

/-- The further members of an object, up to its closing brace. -/
def writeMembers : List (Option String × Json) → List Char
  | [] => ['\x7d']
  | (k, v) :: ms => ',' :: (writeText (k.getD "") ++ ':' :: (write v ++ writeMembers ms))

end

/-- The text of a value. -/
def render (v : Json) : String := String.ofList (write v)

end NodeAtlas.Json
