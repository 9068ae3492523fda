import NodeAtlas.Text.Ascii
import NodeAtlas.Yaml.Cursor

/-!
# Scalar texts

The three ways in which a YAML text writes a scalar: plain, between quotes, and as an indented
block. In each of them single line breaks may be folded into spaces.
-/

namespace NodeAtlas.Yaml

open NodeAtlas.Text

/-- The way in which a scalar is written. -/
inductive Style where
  /-- Without marks. -/
  | plain
  /-- Between quotes. -/
  | quoted
  /-- As a block that keeps its lines. -/
  | literal
  /-- As a block whose lines are folded. -/
  | folded
  deriving DecidableEq, Repr

/-- The blanks and line breaks between two parts of a scalar. -/
structure Gap where
  /-- The blanks before the first line break. -/
  blanks : List Char := []
  /-- The first line break. -/
  first : List Char := []
  /-- The line breaks after the first. -/
  others : List Char := []
  /-- There is a line break. -/
  broken : Bool := false

/-- What a gap contributes to the text: blanks as they are, one line break as a space, further ones
as line feeds. -/
def Gap.fold (g : Gap) : List Char :=
  if !g.broken then g.blanks
  else if g.first = ['\n'] then (if g.others.isEmpty then [' '] else g.others)
  else g.first ++ g.others

/-- Takes blanks and line breaks. A tab before column `margin` on a later line is refused. -/
def takeGap (margin : Int) : (fuel : Nat) → Gap → Cursor → Option (Gap × Cursor)
  | 0, _, _ => none
  | fuel + 1, g, c =>
    match c.rest with
    | [] => some (g, c)
    | x :: _ =>
      if isBlank x then
        if g.broken && x == '\t' && (c.column : Int) < margin then none
        else
          let g := if g.broken then g else { g with blanks := g.blanks ++ [x] }
          takeGap margin fuel g (c.advance 1)
      else if isBreak x then
        let (b, c) := c.takeBreak
        let g := if g.broken then { g with others := g.others ++ b }
          else { g with first := b, broken := true }
        takeGap margin fuel g c
      else some (g, c)

/-! ## Plain scalars -/

/-- The characters that end a plain scalar inside brackets. -/
def isFlowMark (c : Char) : Bool :=
  c == ',' || c == '[' || c == ']' || c == '{' || c == '}'

/-- The characters of a plain scalar up to the next blank, line break or end of the scalar. -/
def takePlainRun (inFlow : Bool) : List Char → Option (List Char)
  | [] => some []
  | x :: rest =>
    if isBlank x || isBreak x then some []
    else if inFlow && x == ':' && rest.head?.any fun y => isFlowMark y || y == '?' then none
    else if (x == ':' && atGap rest) || (inFlow && isFlowMark x) then some []
    else (takePlainRun inFlow rest).map (x :: ·)

/-- A plain scalar read so far. -/
structure PlainScan where
  text : List Char
  /-- A line break came last. -/
  broken : Bool
  /-- The place behind it. -/
  cursor : Cursor

/-- Reads the further parts of a plain scalar whose lines begin at column `margin`. -/
def scanPlain (inFlow : Bool) (margin : Int) : (fuel : Nat) → PlainScan → Gap → Option PlainScan
  | 0, _, _ => none
  | fuel + 1, s, gap =>
    let c := s.cursor
    if c.atDocumentIndicator || c.rest.head? == some '#' then some s
    else
      match takePlainRun inFlow c.rest with
      | none => none
      | some run =>
        let text := if run.isEmpty then s.text else s.text ++ gap.fold ++ run
        let broken := if run.isEmpty then s.broken else false
        let gap := if run.isEmpty then gap else {}
        let c := c.advance run.length
        if !atGap c.rest || c.rest.isEmpty then some ⟨text, broken, c⟩
        else
          match takeGap margin (c.rest.length + 1) gap c with
          | none => none
          | some (gap, c) =>
            let s := ⟨text, gap.broken, c⟩
            if !inFlow && (c.column : Int) < margin then some s
            else scanPlain inFlow margin fuel s gap

/-! ## Quoted scalars -/

/-- The character that a one-letter escape stands for. -/
def escape? : Char → Option Char
  | '0' => some '\x00'
  | 'a' => some '\x07'
  | 'b' => some '\x08'
  | 't' | '\t' => some '\t'
  | 'n' => some '\n'
  | 'v' => some '\x0b'
  | 'f' => some '\x0c'
  | 'r' => some '\r'
  | 'e' => some '\x1b'
  | ' ' => some ' '
  | '"' => some '"'
  | '/' => some '/'
  | '\\' => some '\\'
  | 'N' => some '\u0085'
  | '_' => some '\u00a0'
  | 'L' => some '\u2028'
  | 'P' => some '\u2029'
  | _ => none

/-- The number of hexadecimal digits that an escape letter announces. -/
def escapeWidth? : Char → Option Nat
  | 'x' => some 2
  | 'u' => some 4
  | 'U' => some 8
  | _ => none

/-- The character with the number written by `width` hexadecimal digits. -/
def hexChar? (width : Nat) (cs : List Char) : Option Char :=
  let ds := (cs.take width).filterMap (digit? 16)
  if ds.length < width then none
  else
    let n := ds.foldl (fun acc d => acc * 16 + d) 0
    if h : n.isValidChar then some (Char.ofNatAux n h) else none

/-- What ends a run of characters inside quotes. -/
inductive RunEnd where
  /-- A blank, a line break or the end of the text. -/
  | gap
  /-- The closing quote. -/
  | quote
  /-- An escaped line break. -/
  | escapedBreak

/-- Reads characters inside quotes up to the next blank, line break or closing quote. -/
def takeQuotedRun (single : Bool) : (fuel : Nat) → List Char → Cursor →
    Option (List Char × RunEnd × Cursor)
  | 0, _, _ => none
  | fuel + 1, text, c =>
    match c.rest with
    | [] => some (text, .gap, c)
    | x :: rest =>
      if isBlank x || isBreak x then some (text, .gap, c)
      else if single then
        if x == '\'' then
          if rest.head? == some '\'' then takeQuotedRun single fuel (text ++ ['\'']) (c.advance 2)
          else some (text, .quote, c)
        else takeQuotedRun single fuel (text ++ [x]) (c.advance 1)
      else if x == '"' then some (text, .quote, c)
      else if x == '\\' then
        match rest with
        | [] => none
        | e :: rest =>
          if isBreak e then some (text, .escapedBreak, (c.advance 1).skipBreak)
          else
            match escape? e, escapeWidth? e with
            | some y, _ => takeQuotedRun single fuel (text ++ [y]) (c.advance 2)
            | none, some width =>
              match hexChar? width rest with
              | some y => takeQuotedRun single fuel (text ++ [y]) (c.advance (2 + width))
              | none => none
            | none, none => none
      else takeQuotedRun single fuel (text ++ [x]) (c.advance 1)

/-- Reads a quoted scalar behind its opening quote. -/
def scanQuoted (single : Bool) : (fuel : Nat) → List Char → Cursor → Option (List Char × Cursor)
  | 0, _, _ => none
  | fuel + 1, text, c =>
    if c.atDocumentIndicator || c.rest.isEmpty then none
    else
      match takeQuotedRun single (c.rest.length + 1) text c with
      | none => none
      | some (text, .quote, c) => some (text, c.advance 1)
      | some (text, stop, c) =>
        let escaped := match stop with
          | .escapedBreak => true
          | _ => false
        if escaped && c.rest.head? == some (if single then '\'' else '"') then
          some (text, c.advance 1)
        else
          match takeGap (-1) (c.rest.length + 1) { broken := escaped } c with
          | none => none
          | some (gap, c) => scanQuoted single fuel (text ++ gap.fold) c

/-! ## Block scalars -/

/-- What happens to the line breaks at the end of a block. -/
inductive Chomp where
  /-- None stays. -/
  | strip
  /-- The first one stays. -/
  | clip
  /-- All stay. -/
  | keep
  deriving DecidableEq

/-- The header of a block: what happens at its end, and its indentation if it is given. -/
structure BlockHeader where
  /-- What happens to the line breaks at the end. -/
  chomp : Chomp
  /-- The given indentation, or zero. -/
  increment : Nat
  /-- The place behind the header. -/
  cursor : Cursor

/-- Reads an indentation digit, which is not zero, if there is a digit. -/
def takeIncrement (c : Cursor) : Option (Nat × Cursor) :=
  match c.rest with
  | d :: _ =>
    if isDigit d then (if d = '0' then none else some (d.toNat - '0'.toNat, c.advance 1))
    else some (0, c)
  | [] => some (0, c)

/-- Reads a mark for the end of the block, if there is one. -/
def takeChomp (c : Cursor) : Option (Chomp × Cursor) :=
  match c.rest with
  | '+' :: _ => some (.keep, c.advance 1)
  | '-' :: _ => some (.strip, c.advance 1)
  | _ => none

/-- Reads the header of a block behind its mark. -/
def readHeader (c : Cursor) : Option BlockHeader := do
  match takeChomp c with
  | some (chomp, c) =>
    let (n, c) ← takeIncrement c
    return ⟨chomp, n, c⟩
  | none =>
    let (n, c) ← takeIncrement c
    if n = 0 then return ⟨.clip, 0, c⟩
    match takeChomp c with
    | some (chomp, c) => return ⟨chomp, n, c⟩
    | none => return ⟨.clip, n, c⟩

/-- The space before the next line of a block. -/
structure BlockGap where
  /-- The line breaks. -/
  breaks : List Char
  /-- The widest indentation seen. -/
  widest : Nat
  /-- The place behind it. -/
  cursor : Cursor

/-- Takes the empty lines and the indentation before the next line of a block. An indentation of
zero is still to be found out. A tab must not stand where the indentation is. -/
def takeBlockGap (indent : Nat) : (fuel : Nat) → BlockGap → Option BlockGap
  | 0, _ => none
  | fuel + 1, g =>
    let inMargin (c : Cursor) : Bool := indent == 0 || c.column < indent
    let spaces := (g.cursor.rest.takeWhile (· == ' ')).length
    let c := g.cursor.advance (if indent = 0 then spaces else min spaces (indent - g.cursor.column))
    let widest := max g.widest c.column
    match c.rest with
    | x :: _ =>
      if x == '\t' && inMargin c then none
      else if isBreak x then
        let (b, c) := c.takeBreak
        takeBlockGap indent fuel ⟨g.breaks ++ b, widest, c⟩
      else some ⟨g.breaks, widest, c⟩
    | [] => some ⟨g.breaks, widest, c⟩

/-- A block read so far. -/
structure BlockScan where
  text : List Char
  /-- The line break behind the last line. -/
  last : List Char
  /-- The line breaks behind that. -/
  trailing : List Char
  /-- The last line began with a blank. -/
  blankBefore : Bool
  /-- The place behind it. -/
  cursor : Cursor

/-- Reads the lines of a block that are indented by `indent`. -/
def scanLines (isLiteral : Bool) (indent : Nat) : (fuel : Nat) → BlockScan → Option BlockScan
  | 0, _ => none
  | fuel + 1, s =>
    let c := s.cursor
    match c.rest with
    | [] => some s
    | x :: _ =>
      if c.column ≠ indent then some s
      else
        let blank := isBlank x
        let joint :=
          if !isLiteral && s.last == ['\n'] && !s.blankBefore && !blank then
            (if s.trailing.isEmpty then [' '] else [])
          else s.last
        let line := c.span fun y => !isBreak y
        let (b, c) := (c.advance line.length).takeBreak
        match takeBlockGap indent (c.rest.length + 1) ⟨[], 0, c⟩ with
        | none => none
        | some g =>
          scanLines isLiteral indent fuel
            ⟨s.text ++ joint ++ s.trailing ++ line, b, g.breaks, blank, g.cursor⟩

/-- Reads a block behind its mark; `parent` is the indentation of the collection that holds it. -/
def scanBlock (isLiteral : Bool) (parent : Int) (c : Cursor) : Option (List Char × Cursor) := do
  let header ← readHeader c
  let c ← header.cursor.toLineEnd?
  let given := if header.increment = 0 then 0 else (max parent 0).toNat + header.increment
  let g ← takeBlockGap given (c.rest.length + 1) ⟨[], 0, c⟩
  let indent := if given = 0 then max (max g.widest (parent + 1).toNat) 1 else given
  let s ← scanLines isLiteral indent (g.cursor.rest.length + 1) ⟨[], [], g.breaks, false, g.cursor⟩
  return (s.text ++ (if header.chomp = .strip then [] else s.last) ++
    (if header.chomp = .keep then s.trailing else []), s.cursor)

end NodeAtlas.Yaml
