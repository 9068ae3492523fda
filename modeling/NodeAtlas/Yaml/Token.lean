import NodeAtlas.Yaml.Scalar

/-!
# Tokens of a YAML text

Indicators, scalars and properties in the order of the text. Indentation is turned into tokens as
well: a block collection is opened where its first entry is met and closed where a line is indented
less. A text becomes a key only when the colon behind it is met, so its key token is inserted
afterwards.
-/

namespace NodeAtlas.Yaml

open NodeAtlas.Text

inductive Token where
  /-- The end of the text. -/
  | streamEnd
  /-- The version that a directive states. -/
  | version (major minor : Nat)
  /-- The meaning that a directive gives to a tag handle. -/
  | tagMeaning (handle meaning : String)
  /-- Three hyphens. -/
  | documentStart
  /-- Three dots. -/
  | documentEnd
  /-- A block sequence begins. -/
  | blockSequence
  /-- A block mapping begins. -/
  | blockMapping
  /-- A block collection ends. -/
  | blockEnd
  | openBracket
  | closeBracket
  | openBrace
  | closeBrace
  /-- The mark of an entry of a block sequence. -/
  | entry
  | comma
  /-- A key follows. -/
  | key
  /-- A value follows. -/
  | value
  /-- A reference to an anchor. -/
  | alias (name : String)
  | anchor (name : String)
  | tag (handle rest : String)
  | scalar (text : String) (style : Style)
  deriving DecidableEq, Repr

/-- A text that may turn out to be a key. -/
structure KeyCandidate where
  /-- It must be a key, as it stands where only a key may stand. -/
  required : Bool
  /-- The number of tokens before it. -/
  position : Nat
  /-- The line on which it begins. -/
  line : Nat
  /-- The column at which it begins. -/
  column : Nat
  /-- The number of bytes before it. -/
  offset : Nat

/-- A text under division into tokens. -/
structure Scan where
  /-- The place reached. -/
  cursor : Cursor
  /-- The tokens found. -/
  tokens : Array Token
  /-- The number of brackets and braces that are open. -/
  depth : Nat
  /-- The indentation of the block collection at hand, or -1 outside. -/
  indent : Int
  /-- The indentations of the block collections around it. -/
  outer : List Int
  /-- The key candidate of each open bracket, innermost first, and of the block around them. -/
  candidates : List (Option KeyCandidate)
  /-- A key may begin here. -/
  keyAllowed : Bool

namespace Scan

/-- Adds a token. -/
def emit (s : Scan) (t : Token) : Scan := { s with tokens := s.tokens.push t }

/-- Inserts a token before those from `position` on. -/
def insertAt (s : Scan) (position : Nat) (t : Token) : Scan :=
  { s with tokens := s.tokens.insertIdxIfInBounds position t }

/-- Moves on by `n` characters of the line. -/
def advance (s : Scan) (n : Nat) : Scan := { s with cursor := s.cursor.advance n }

/-- The candidate at the present depth. -/
def candidate (s : Scan) : Option KeyCandidate := s.candidates.head?.join

/-- Replaces the candidate at the present depth. -/
def setCandidate (s : Scan) (k : Option KeyCandidate) : Scan :=
  { s with candidates := k :: s.candidates.tail }

/-- Gives up the candidate at the present depth, unless it has to be a key. -/
def dropCandidate? (s : Scan) : Option Scan :=
  match s.candidate with
  | some k => if k.required then none else some (s.setCandidate none)
  | none => some (s.setCandidate none)

/-- A candidate that lies on an earlier line or too far back can no longer become a key. -/
def isStale (c : Cursor) (k : KeyCandidate) : Bool :=
  k.line < c.line || k.offset + 1024 < c.offset

/-- Gives up the candidates that can no longer become keys, unless one of them has to. -/
def dropStale? (s : Scan) : Option Scan :=
  let stale (k : Option KeyCandidate) : Bool := k.any (isStale s.cursor)
  if s.candidates.any fun k => stale k && k.any (·.required) then none
  else some { s with candidates := s.candidates.map fun k => if stale k then none else k }

/-- Remembers this place as a candidate if a key may begin here. -/
def saveCandidate? (s : Scan) : Option Scan :=
  if s.keyAllowed then
    (s.dropCandidate?).map fun s =>
      s.setCandidate (some {
        required := s.depth == 0 && s.indent == (s.cursor.column : Int)
        position := s.tokens.size
        line := s.cursor.line
        column := s.cursor.column
        offset := s.cursor.offset })
  else some s

/-- Opens a block collection at a column, if it is indented more than the one at hand. Its token
goes before those from `position` on. -/
def openBlock (s : Scan) (column position : Nat) (t : Token) : Scan :=
  if s.depth = 0 ∧ s.indent < (column : Int) then
    { s.insertAt position t with outer := s.indent :: s.outer, indent := column }
  else s

/-- Closes the block collections with an indentation in the list that exceed the column. -/
def closeFrom (column : Int) : (indent : Int) → (outer : List Int) → Array Token →
    Array Token × Int × List Int
  | indent, [], ts => (ts, indent, [])
  | indent, o :: os, ts =>
    if column < indent then closeFrom column o os (ts.push .blockEnd) else (ts, indent, o :: os)

/-- Closes the block collections that are indented more than the column. -/
def closeBlocks (s : Scan) (column : Int) : Scan :=
  if s.depth = 0 then
    let (ts, indent, outer) := closeFrom column s.indent s.outer s.tokens
    { s with tokens := ts, indent := indent, outer := outer }
  else s

/-! ## Blanks -/

/-- Skips blanks, comments and line breaks, and a byte order mark at the beginning of a line. A tab
is no blank where a key may begin outside brackets. -/
def skipGap : (fuel : Nat) → Scan → Scan
  | 0, s => s
  | fuel + 1, s =>
    let atMark := s.cursor.column = 0 ∧ s.cursor.rest.head? = some '\uFEFF'
    let c := if atMark then s.cursor.advance 1 else s.cursor
    let c := c.skipWhile fun x => x == ' ' || (x == '\t' && (s.depth != 0 || !s.keyAllowed))
    let c := if c.rest.head? = some '#' then c.skipLine else c
    match c.rest with
    | x :: _ =>
      if isBreak x then
        skipGap fuel { s with cursor := c.skipBreak, keyAllowed := s.depth == 0 || s.keyAllowed }
      else { s with cursor := c }
    | [] => { s with cursor := c }

/-! ## Directives -/

/-- Reads a number of at most nine digits. -/
def takeNumber (c : Cursor) : Option (Nat × Cursor) :=
  let ds := c.span isDigit
  if ds.isEmpty || 9 < ds.length then none
  else some (ds.foldl (fun acc d => acc * 10 + (d.toNat - '0'.toNat)) 0, c.advance ds.length)

/-- The characters of a tag that are written as they are. -/
def isTagChar (inAngles : Bool) (c : Char) : Bool :=
  isWordChar c || ";/?:@&=+$.%!~*'()".toList.contains c || (inAngles && ",[]".toList.contains c)

/-- One byte written as a percent sign and two hexadecimal digits. -/
def takeByte : List Char → Option (Nat × List Char)
  | '%' :: a :: b :: rest => do return ((← digit? 16 a) * 16 + (← digit? 16 b), rest)
  | _ => none

/-- The further bytes of a character in UTF-8. -/
def takeContinuation : (count value : Nat) → List Char → Option (Nat × List Char)
  | 0, value, cs => some (value, cs)
  | n + 1, value, cs => do
    let (b, cs) ← takeByte cs
    if b / 64 = 2 then takeContinuation n (value * 64 + b % 64) cs else none

/-- The character with the given number, if it takes `size` bytes in UTF-8, and the replacement
character otherwise. -/
def charOfSize (size value : Nat) : Char :=
  if value.isValidChar ∧ (Char.ofNat value).utf8Size = size then .ofNat value else '\uFFFD'

/-- A character whose bytes in UTF-8 are percent-encoded. Bytes that belong to no character, or are
more than it needs, count as the replacement character. -/
def takeEncoded (cs : List Char) : Option (Char × List Char) := do
  let (b, cs) ← takeByte cs
  let (size, head) ←
    if b < 0x80 then some (1, b)
    else if b / 32 = 6 then some (2, b % 32)
    else if b / 16 = 14 then some (3, b % 16)
    else if b / 8 = 30 then some (4, b % 8)
    else none
  let (value, cs) ← takeContinuation (size - 1) head cs
  return (charOfSize size value, cs)

/-- Reads the characters of a tag. -/
def takeTagChars (inAngles : Bool) : (fuel : Nat) → List Char → Option (List Char × List Char)
  | 0, _ => none
  | _ + 1, [] => some ([], [])
  | fuel + 1, c :: cs =>
    if !isTagChar inAngles c then some ([], c :: cs)
    else if c = '%' then
      match takeEncoded (c :: cs) with
      | none => none
      | some (x, cs) => (takeTagChars inAngles fuel cs).map fun r => (x :: r.1, r.2)
    else (takeTagChars inAngles fuel cs).map fun r => (c :: r.1, r.2)

/-- Reads the characters of a tag behind its `head`; head and characters are not both empty. An
encoded NUL ends the tag, and what follows it counts for nothing. -/
def takeTagText (inAngles : Bool) (head : List Char) (c : Cursor) :
    Option (List Char × Cursor) := do
  let (text, rest) ← takeTagChars inAngles (c.rest.length + 1) c.rest
  let c := c.advance (c.rest.length - rest.length)
  if head.isEmpty && text.isEmpty then none
  return ((head.drop 1 ++ text).takeWhile (· ≠ '\x00'), c)

/-- Reads a tag handle: an exclamation mark, word characters and perhaps another mark. -/
def takeHandle (c : Cursor) : Option (List Char × Cursor) :=
  match c.rest with
  | '!' :: rest =>
    let word := rest.takeWhile isWordChar
    match rest.drop word.length with
    | '!' :: _ => some ('!' :: (word ++ ['!']), c.advance (word.length + 2))
    | _ => some ('!' :: word, c.advance (word.length + 1))
  | _ => none

/-- Reads the values of a version directive. -/
def takeVersion (c : Cursor) : Option (Token × Cursor) := do
  let (major, c) ← takeNumber (c.skipWhile isBlank)
  if c.rest.head? ≠ some '.' then none
  let (minor, c) ← takeNumber (c.advance 1)
  return (.version major minor, c)

/-- Reads the values of a tag directive. -/
def takeTagMeaning (c : Cursor) : Option (Token × Cursor) := do
  let (handle, c) ← takeHandle (c.skipWhile isBlank)
  if handle ≠ ['!'] ∧ (handle.length = 1 ∨ handle.getLast? ≠ some '!') then none
  if !(c.rest.head?.any isBlank) then none
  let (meaning, c) ← takeTagText true [] (c.skipWhile isBlank)
  if !atGap c.rest then none
  return (.tagMeaning (String.ofList handle) (String.ofList meaning), c)

/-- Reads a directive behind its percent sign. -/
def takeDirective (c : Cursor) : Option (Token × Cursor) := do
  let name := c.span isWordChar
  let c := c.advance name.length
  if name.isEmpty || !atGap c.rest then none
  let (t, c) ←
    if name = "YAML".toList then takeVersion c
    else if name = "TAG".toList then takeTagMeaning c
    else none
  return (t, ← c.toLineEnd?)

/-! ## Properties -/

/-- Reads the name of an anchor or a reference behind its mark. -/
def takeName (c : Cursor) : Option (String × Cursor) :=
  let name := c.span isWordChar
  let c := c.advance name.length
  let ends := match c.rest with
    | [] => true
    | x :: _ => isBlank x || isBreak x || "?:,]\x7d%@\x60".toList.contains x
  if name.isEmpty || !ends then none else some (String.ofList name, c)

/-- Reads a tag. -/
def takeTag (inFlow : Bool) (c : Cursor) : Option (Token × Cursor) := do
  let (t, c) ←
    match c.rest with
    | '!' :: '<' :: _ => do
      let (text, c) ← takeTagText true [] (c.advance 2)
      if c.rest.head? ≠ some '>' then none
      some (Token.tag "" (String.ofList text), c.advance 1)
    | _ => do
      let (handle, c) ← takeHandle c
      if 1 < handle.length ∧ handle.getLast? = some '!' then
        let (text, c) ← takeTagText false [] c
        some (Token.tag (String.ofList handle) (String.ofList text), c)
      else
        let (text, c) ← takeTagText false handle c
        some (if text.isEmpty then Token.tag "" "!" else Token.tag "!" (String.ofList text), c)
  let ends := atGap c.rest || (inFlow && c.rest.head? = some ',')
  if ends then some (t, c) else none

/-! ## Tokens -/

/-- Prepares for a directive or a document indicator, which stand outside all collections. -/
def leaveBlocks? (s : Scan) : Option Scan :=
  ((s.closeBlocks (-1)).dropCandidate?).map fun s => { s with keyAllowed := false }

/-- A document indicator. -/
def scanIndicator (s : Scan) (t : Token) : Option Scan :=
  (s.leaveBlocks?).map fun s => (s.advance 3).emit t

/-- An opening bracket or brace. -/
def scanOpen (s : Scan) (t : Token) : Option Scan :=
  (s.saveCandidate?).map fun s =>
    let s := { s with
      candidates := none :: s.candidates, depth := s.depth + 1, keyAllowed := true }
    (s.advance 1).emit t

/-- A closing bracket or brace. -/
def scanClose (s : Scan) (t : Token) : Option Scan :=
  (s.dropCandidate?).map fun s =>
    let s := if s.depth = 0 then s
      else { s with candidates := s.candidates.tail, depth := s.depth - 1 }
    ({ s with keyAllowed := false }.advance 1).emit t

def scanComma (s : Scan) : Option Scan :=
  (s.dropCandidate?).map fun s => ({ s with keyAllowed := true }.advance 1).emit .comma

/-- The mark of an entry of a block sequence. -/
def scanEntry (s : Scan) : Option Scan :=
  if s.depth = 0 ∧ !s.keyAllowed then none
  else
    ((s.openBlock s.cursor.column s.tokens.size .blockSequence).dropCandidate?).map fun s =>
      ({ s with keyAllowed := true }.advance 1).emit .entry

/-- The mark of a key. -/
def scanKey (s : Scan) : Option Scan :=
  if s.depth = 0 ∧ !s.keyAllowed then none
  else
    ((s.openBlock s.cursor.column s.tokens.size .blockMapping).dropCandidate?).map fun s =>
      ({ s with keyAllowed := s.depth == 0 }.advance 1).emit .key

/-- The mark of a value. The candidate before it, if any, turns out to be its key. -/
def scanValue (s : Scan) : Option Scan :=
  match s.candidate with
  | some k =>
    let s := (s.insertAt k.position .key).openBlock k.column k.position .blockMapping
    some (({ s.setCandidate none with keyAllowed := false }.advance 1).emit .value)
  | none =>
    if s.depth = 0 ∧ !s.keyAllowed then none
    else
      let s := s.openBlock s.cursor.column s.tokens.size .blockMapping
      some (({ s with keyAllowed := s.depth == 0 }.advance 1).emit .value)

/-- A token that may begin a key, given what reads it. -/
def scanContent (s : Scan) (read : Cursor → Option (Token × Cursor)) : Option Scan := do
  let s ← s.saveCandidate?
  let (t, c) ← read s.cursor
  return { s with keyAllowed := false, cursor := c }.emit t

def scanBlockScalar (s : Scan) (style : Style) : Option Scan := do
  let s ← s.dropCandidate?
  let (text, c) ← scanBlock (style = .literal) s.indent (s.cursor.advance 1)
  return { s with keyAllowed := true, cursor := c }.emit (.scalar (String.ofList text) style)

def scanQuotedScalar (s : Scan) (single : Bool) : Option Scan :=
  s.scanContent fun c =>
    (scanQuoted single (c.rest.length + 1) [] (c.advance 1)).map fun r =>
      (.scalar (String.ofList r.1) .quoted, r.2)

/-- A plain scalar. A line break at its end allows a key to follow. -/
def scanPlainScalar (s : Scan) : Option Scan := do
  let s ← s.saveCandidate?
  let p ← scanPlain (s.depth != 0) (s.indent + 1) (s.cursor.rest.length + 1)
    ⟨[], false, s.cursor⟩ {}
  return { s with keyAllowed := p.broken, cursor := p.cursor }.emit
    (.scalar (String.ofList p.text) .plain)

/-- The characters that do not begin a plain scalar. -/
def isMark (c : Char) : Bool :=
  "-?:,[]\x7b\x7d#&*!|>'\"%@\x60".toList.contains c

/-- A plain scalar may begin here. -/
def beginsPlain (s : Scan) : Bool :=
  match s.cursor.rest with
  | [] => false
  | x :: rest =>
    !(isBlank x || isBreak x || isMark x) ||
      (x == '-' && !(rest.head?.any isBlank)) ||
      (s.depth == 0 && (x == '?' || x == ':') && !atGap rest)

/-- Reads the next token at a place that is no gap. -/
def scanToken (s : Scan) : Option Scan :=
  match s.cursor.rest with
  | [] => none
  | x :: rest =>
    if s.cursor.column = 0 ∧ x = '%' then do
      let s ← s.leaveBlocks?
      let (t, c) ← takeDirective (s.cursor.advance 1)
      return { s with cursor := c }.emit t
    else if s.cursor.column = 0 ∧ atIndicator '-' (x :: rest) then s.scanIndicator .documentStart
    else if s.cursor.column = 0 ∧ atIndicator '.' (x :: rest) then s.scanIndicator .documentEnd
    else if x = '[' then s.scanOpen .openBracket
    else if x = '\x7b' then s.scanOpen .openBrace
    else if x = ']' then s.scanClose .closeBracket
    else if x = '\x7d' then s.scanClose .closeBrace
    else if x = ',' then s.scanComma
    else if x = '-' ∧ atGap rest then s.scanEntry
    else if x = '?' ∧ (s.depth ≠ 0 ∨ atGap rest) then s.scanKey
    else if x = ':' ∧ (s.depth ≠ 0 ∨ atGap rest) then s.scanValue
    else if x = '*' then
      s.scanContent fun c => (takeName (c.advance 1)).map fun r => (.alias r.1, r.2)
    else if x = '&' then
      s.scanContent fun c => (takeName (c.advance 1)).map fun r => (.anchor r.1, r.2)
    else if x = '!' then s.scanContent (takeTag (s.depth != 0))
    else if x = '|' ∧ s.depth = 0 then s.scanBlockScalar .literal
    else if x = '>' ∧ s.depth = 0 then s.scanBlockScalar .folded
    else if x = '\'' then s.scanQuotedScalar true
    else if x = '"' then s.scanQuotedScalar false
    else if s.beginsPlain then s.scanPlainScalar
    else none

/-- The end of the text, which counts as a line end. -/
def finish? (s : Scan) : Option Scan :=
  (s.leaveBlocks?).map fun s => s.emit .streamEnd

/-- Reads all tokens. -/
def run : (fuel : Nat) → Scan → Option Scan
  | 0, _ => none
  | fuel + 1, s =>
    let s := s.skipGap (s.cursor.rest.length + 1)
    match s.dropStale? with
    | none => none
    | some s =>
      let s := s.closeBlocks s.cursor.column
      if s.cursor.rest.isEmpty then s.finish?
      else
        match s.scanToken with
        | none => none
        | some s => run fuel s

end Scan

/-- The tokens of a text. -/
def tokens? (cs : List Char) : Option (List Token) :=
  if !cs.all isAllowed then none
  else
    let start : Scan := ⟨⟨cs, 0, 0, 0⟩, #[], 0, -1, [], [none], true⟩
    (Scan.run (cs.length + 2) start).map fun s => s.tokens.toList

end NodeAtlas.Yaml
