import NodeAtlas.Yaml.Token

/-!
# Nodes of a YAML text

The tree of scalars, sequences and mappings that the tokens of a document describe. Aliases are
still names; a missing key or value is an empty plain scalar.
-/

namespace NodeAtlas.Yaml

/-- A scalar with its tag, if it has one. -/
structure Scalar where
  text : String
  /-- The way in which it is written. -/
  style : Style
  tag : Option String
  deriving DecidableEq, Repr

/-- A node whose aliases are of type `α`. -/
inductive Node (α : Type) where
  /-- A reference to an anchor. -/
  | alias (target : α)
  | scalar (anchor : Option String) (s : Scalar)
  | sequence (anchor : Option String) (items : List (Node α))
  | mapping (anchor : Option String) (entries : List (Node α × Node α))

mutual

/-- The number of parts of a node: one for an alias or a scalar, and one for either end of a
collection. -/
def Node.partCount {α : Type} : Node α → Nat
  | .alias _ | .scalar _ _ => 1
  | .sequence _ items => 2 + itemsPartCount items
  | .mapping _ entries => 2 + entriesPartCount entries

/-- The number of parts of the items of a sequence. -/
def itemsPartCount {α : Type} : List (Node α) → Nat
  | [] => 0
  | n :: ns => n.partCount + itemsPartCount ns

/-- The number of parts of the entries of a mapping. -/
def entriesPartCount {α : Type} : List (Node α × Node α) → Nat
  | [] => 0
  | (k, v) :: es => k.partCount + v.partCount + entriesPartCount es

end

/-- A node as it stands in the text. -/
abbrev RawNode := Node String

namespace RawNode

/-- The empty plain scalar. -/
def blank : RawNode := .scalar none ⟨"", .plain, none⟩

/-- The meanings of tag handles. -/
abbrev TagMeanings := List (String × String)

/-- The tag that handle and rest stand for. -/
def resolveTag (meanings : TagMeanings) (handle rest : String) : Option String :=
  if handle.isEmpty then some rest
  else (meanings.lookup handle).map (· ++ rest)

/-- Anchor and tag of a node. -/
structure Properties where
  anchor : Option String := none
  tag : Option String := none

/-- Reads anchor and tag in either order, each at most once. -/
def takeProperties (meanings : TagMeanings) : List Token → Option (Properties × List Token)
  | .anchor a :: .tag h r :: ts => (resolveTag meanings h r).map fun t => (⟨some a, some t⟩, ts)
  | .anchor a :: ts => some (⟨some a, none⟩, ts)
  | .tag h r :: .anchor a :: ts => (resolveTag meanings h r).map fun t => (⟨some a, some t⟩, ts)
  | .tag h r :: ts => (resolveTag meanings h r).map fun t => (⟨none, some t⟩, ts)
  | ts => some ({}, ts)

/-- The outcome of reading part of a document. -/
abbrev Reading (β : Type) := Option (β × List Token)

/-- The next token ends an entry of a block mapping before its content. -/
def endsMappingPart : List Token → Bool
  | .key :: _ | .value :: _ | .blockEnd :: _ => true
  | _ => false

/-- The next token ends an entry of a block sequence before its content. -/
def endsSequenceItem : List Token → Bool
  | .entry :: _ | .blockEnd :: _ => true
  | _ => false

/-- The next token ends an entry of a sequence that is not indented before its content. -/
def endsFlatItem (ts : List Token) : Bool := endsSequenceItem ts || endsMappingPart ts

/-- Adds an item in front of a list that has been read. -/
def prepend {β : Type} (x : β) (r : Reading (List β)) : Reading (List β) :=
  r.map fun r => (x :: r.1, r.2)

mutual

/-- Reads a node. A block collection is possible only where `block` holds, and a sequence without
indentation only where `flat` holds. -/
def read (meanings : TagMeanings) :
    (fuel : Nat) → (block flat : Bool) → List Token → Reading RawNode
  | 0, _, _, _ => none
  | fuel + 1, block, flat, ts =>
    match ts with
    | .alias name :: ts => some (.alias name, ts)
    | ts =>
      match takeProperties meanings ts with
      | none => none
      | some (p, ts) =>
        match ts with
        | .scalar text style :: rest =>
          some (.scalar p.anchor ⟨text, style, p.tag⟩, rest)
        | .openBracket :: rest =>
          (readFlowItems meanings fuel true rest).map fun r => (.sequence p.anchor r.1, r.2)
        | .openBrace :: rest =>
          (readFlowEntries meanings fuel true rest).map fun r => (.mapping p.anchor r.1, r.2)
        | .entry :: rest =>
          if flat then
            (readFlatItems meanings fuel (.entry :: rest)).map fun r =>
              (.sequence p.anchor r.1, r.2)
          else other p (.entry :: rest)
        | .blockSequence :: rest =>
          if block then
            (readItems meanings fuel rest).map fun r => (.sequence p.anchor r.1, r.2)
          else other p (.blockSequence :: rest)
        | .blockMapping :: rest =>
          if block then
            (readEntries meanings fuel rest).map fun r => (.mapping p.anchor r.1, r.2)
          else other p (.blockMapping :: rest)
        | ts => other p ts
where
  /-- Nothing that begins a node: properties alone make an empty scalar. -/
  other (p : Properties) (ts : List Token) : Reading RawNode :=
    if p.anchor.isSome || p.tag.isSome then
      some (.scalar p.anchor ⟨"", .plain, p.tag⟩, ts)
    else none

/-- Reads the items of a block sequence up to its end. -/
def readItems (meanings : TagMeanings) : (fuel : Nat) → List Token → Reading (List RawNode)
  | 0, _ => none
  | fuel + 1, ts =>
    match ts with
    | .entry :: ts =>
      if endsSequenceItem ts then prepend blank (readItems meanings fuel ts)
      else
        match read meanings fuel true false ts with
        | none => none
        | some (n, ts) => prepend n (readItems meanings fuel ts)
    | .blockEnd :: ts => some ([], ts)
    | _ => none

/-- Reads the items of a sequence that is not indented. -/
def readFlatItems (meanings : TagMeanings) : (fuel : Nat) → List Token → Reading (List RawNode)
  | 0, _ => none
  | fuel + 1, ts =>
    match ts with
    | .entry :: ts =>
      if endsFlatItem ts then prepend blank (readFlatItems meanings fuel ts)
      else
        match read meanings fuel true false ts with
        | none => none
        | some (n, ts) => prepend n (readFlatItems meanings fuel ts)
    | ts => some ([], ts)

/-- Reads a key or a value of a block mapping behind its mark. -/
def readMappingPart (meanings : TagMeanings) : (fuel : Nat) → List Token → Reading RawNode
  | 0, _ => none
  | fuel + 1, ts => if endsMappingPart ts then some (blank, ts) else read meanings fuel true true ts

/-- Reads the entries of a block mapping up to its end. Each has a key, which may be empty. -/
def readEntries (meanings : TagMeanings) : (fuel : Nat) → List Token →
    Reading (List (RawNode × RawNode))
  | 0, _ => none
  | fuel + 1, ts =>
    match ts with
    | .key :: ts =>
      match readMappingPart meanings fuel ts with
      | none => none
      | some (k, .value :: ts) =>
        match readMappingPart meanings fuel ts with
        | none => none
        | some (v, ts) => prepend (k, v) (readEntries meanings fuel ts)
      | some (k, ts) => prepend (k, blank) (readEntries meanings fuel ts)
    | .blockEnd :: ts => some ([], ts)
    | _ => none

/-- Reads the items of a sequence in brackets. Every item but the first follows a comma. -/
def readFlowItems (meanings : TagMeanings) : (fuel : Nat) → (first : Bool) → List Token →
    Reading (List RawNode)
  | 0, _, _ => none
  | fuel + 1, first, ts =>
    match ts with
    | .closeBracket :: ts => some ([], ts)
    | ts =>
      match (if first then some ts else match ts with | .comma :: ts => some ts | _ => none) with
      | none => none
      | some (.closeBracket :: ts) => some ([], ts)
      | some (.key :: ts) =>
        match readPair meanings fuel ts with
        | none => none
        | some (n, ts) => prepend n (readFlowItems meanings fuel false ts)
      | some ts =>
        match read meanings fuel false false ts with
        | none => none
        | some (n, ts) => prepend n (readFlowItems meanings fuel false ts)

/-- Reads a single pair inside brackets behind the mark of its key. -/
def readPair (meanings : TagMeanings) : (fuel : Nat) → List Token → Reading RawNode
  | 0, _ => none
  | fuel + 1, ts =>
    let key : Reading RawNode :=
      match ts with
      | .value :: ts | .comma :: ts | .closeBracket :: ts => some (blank, ts)
      | ts => read meanings fuel false false ts
    match key with
    | none => none
    | some (k, .value :: ts) =>
      match ts with
      | .comma :: _ | .closeBracket :: _ => some (.mapping none [(k, blank)], ts)
      | ts => (read meanings fuel false false ts).map fun r => (.mapping none [(k, r.1)], r.2)
    | some (k, ts) => some (.mapping none [(k, blank)], ts)

/-- Reads the entries of a mapping in braces. Every entry but the first follows a comma. -/
def readFlowEntries (meanings : TagMeanings) : (fuel : Nat) → (first : Bool) → List Token →
    Reading (List (RawNode × RawNode))
  | 0, _, _ => none
  | fuel + 1, first, ts =>
    match ts with
    | .closeBrace :: ts => some ([], ts)
    | ts =>
      match (if first then some ts else match ts with | .comma :: ts => some ts | _ => none) with
      | none => none
      | some (.closeBrace :: ts) => some ([], ts)
      | some (.key :: ts) =>
        let key : Reading RawNode :=
          match ts with
          | .value :: _ | .comma :: _ | .closeBrace :: _ => some (blank, ts)
          | ts => read meanings fuel false false ts
        match key with
        | none => none
        | some (k, .value :: ts) =>
          match ts with
          | .comma :: _ | .closeBrace :: _ =>
            prepend (k, blank) (readFlowEntries meanings fuel false ts)
          | ts =>
            match read meanings fuel false false ts with
            | none => none
            | some (v, ts) => prepend (k, v) (readFlowEntries meanings fuel false ts)
        | some (k, ts) => prepend (k, blank) (readFlowEntries meanings fuel false ts)
      | some ts =>
        match read meanings fuel false false ts with
        | none => none
        | some (k, ts) => prepend (k, blank) (readFlowEntries meanings fuel false ts)

end

end RawNode

end NodeAtlas.Yaml
