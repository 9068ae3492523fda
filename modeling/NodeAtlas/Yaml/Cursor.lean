/-!
# Places in a YAML text

The rest of a text together with the place where it begins, and the character classes of YAML.
-/

namespace NodeAtlas.Yaml

/-- A line break. -/
def isBreak (c : Char) : Bool :=
  c == '\n' || c == '\r' || c == '\u0085' || c == '\u2028' || c == '\u2029'

/-- A space or a tab. -/
def isBlank (c : Char) : Bool := c == ' ' || c == '\t'

/-- A character of anchors and of tag handles. -/
def isWordChar (c : Char) : Bool :=
  ('0' ≤ c && c ≤ '9') || c.isAlpha || c == '_' || c == '-'

/-- The characters that may stand in a text. -/
def isAllowed (c : Char) : Bool :=
  let n := c.toNat
  n == 9 || n == 10 || n == 13 || (32 ≤ n && n ≤ 126) || n == 0x85 || (0xA0 ≤ n && n ≤ 0xD7FF) ||
    (0xE000 ≤ n && n ≤ 0xFFFD) || 0x10000 ≤ n

/-- The text ends here or goes on with a blank or a line break. -/
def atGap : List Char → Bool
  | [] => true
  | c :: _ => isBlank c || isBreak c

/-- The text ends here or goes on with a line break. -/
def atLineEnd : List Char → Bool
  | [] => true
  | c :: _ => isBreak c

/-- A document indicator made of three equal characters begins here. -/
def atIndicator (c : Char) : List Char → Bool
  | x :: y :: z :: rest => x == c && y == c && z == c && atGap rest
  | _ => false

def byteCount (cs : List Char) : Nat := cs.foldl (fun n c => n + c.utf8Size) 0

/-- A place in a text. -/
structure Cursor where
  /-- The text from here on. -/
  rest : List Char
  /-- The number of bytes before this place. -/
  offset : Nat
  /-- The number of lines before this one. -/
  line : Nat
  /-- The number of characters before this place on its line. -/
  column : Nat

namespace Cursor

/-- Moves on by `n` characters of the line. -/
def advance (c : Cursor) (n : Nat) : Cursor :=
  ⟨c.rest.drop n, c.offset + byteCount (c.rest.take n), c.line, c.column + n⟩

/-- The characters of the line from here on that satisfy `p`. -/
def span (c : Cursor) (p : Char → Bool) : List Char := c.rest.takeWhile p

/-- Skips the characters of the line that satisfy `p`. -/
def skipWhile (c : Cursor) (p : Char → Bool) : Cursor := c.advance (c.span p).length

/-- The beginning of the next line, behind a line break of the given size. -/
def nextLine (c : Cursor) (rest : List Char) (size : Nat) : Cursor :=
  ⟨rest, c.offset + size, c.line + 1, 0⟩

/-- Takes a line break, if there is one; the usual breaks all count as line feeds. -/
def takeBreak (c : Cursor) : List Char × Cursor :=
  match c.rest with
  | '\r' :: '\n' :: rest => (['\n'], c.nextLine rest 2)
  | '\r' :: rest | '\n' :: rest => (['\n'], c.nextLine rest 1)
  | '\u0085' :: rest => (['\n'], c.nextLine rest 2)
  | '\u2028' :: rest => (['\u2028'], c.nextLine rest 3)
  | '\u2029' :: rest => (['\u2029'], c.nextLine rest 3)
  | _ => ([], c)

/-- Skips a line break, if there is one. -/
def skipBreak (c : Cursor) : Cursor := c.takeBreak.2

/-- Skips everything up to the end of the line. -/
def skipLine (c : Cursor) : Cursor := c.skipWhile fun x => !isBreak x

/-- Skips blanks and a comment; the line must end there. -/
def toLineEnd? (c : Cursor) : Option Cursor :=
  let c := c.skipWhile isBlank
  let c := if c.rest.head? = some '#' then c.skipLine else c
  if atLineEnd c.rest then some c.skipBreak else none

/-- A document indicator stands at the beginning of this line. -/
def atDocumentIndicator (c : Cursor) : Bool :=
  c.column == 0 && (atIndicator '-' c.rest || atIndicator '.' c.rest)

end Cursor

end NodeAtlas.Yaml
