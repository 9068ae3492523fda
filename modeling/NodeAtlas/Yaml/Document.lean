import NodeAtlas.Yaml.Node

/-!
# YAML documents

A text that holds one document. Its anchors are numbered, so that an alias leads to a node even
where the name of an anchor is given again later. Aliases may make a short text stand for a huge
value, so only so many of them are followed as the size of the document allows.
-/

namespace NodeAtlas.Yaml

/-! ## Directives -/

/-- What the directives before a document say. -/
structure Directives where
  /-- A version has been stated. -/
  versioned : Bool := false
  /-- The meanings given to tag handles. -/
  meanings : RawNode.TagMeanings := []

/-- Reads directives. The version is 1.1 or 1.2 and stated at most once, and no handle gets two
meanings. -/
def takeDirectives (d : Directives) : List Token → Option (Directives × List Token)
  | .version major minor :: ts =>
    if d.versioned ∨ major ≠ 1 ∨ (minor ≠ 1 ∧ minor ≠ 2) then none
    else takeDirectives { d with versioned := true } ts
  | .tagMeaning handle meaning :: ts =>
    if (d.meanings.lookup handle).isSome then none
    else takeDirectives { d with meanings := d.meanings ++ [(handle, meaning)] } ts
  | ts => some (d, ts)

/-- The meanings of the tag handles that no directive changes. -/
def defaultMeanings : RawNode.TagMeanings := [("!", "!"), ("!!", "tag:yaml.org,2002:")]

/-! ## Anchors -/

/-- The numbers of the anchors met so far. -/
abbrev AnchorNumbers := List (String × Nat)

/-- Numbers an anchor with the count of the names met before. A name given again gets a
new number. -/
def register (numbers : AnchorNumbers) : Option String → AnchorNumbers
  | none => numbers
  | some name => (name, numbers.length) :: numbers.filter fun e => e.1 ≠ name

/-- Nodes together with the numbers of their anchors, in the order in which they begin. -/
abbrev Targets := List (Nat × Node Nat)

/-- The entry of a node with an anchor. -/
def targetOf (numbers : AnchorNumbers) (anchor : Option String) (n : Node Nat) : Targets :=
  match anchor with
  | none => []
  | some _ => [(numbers.length, n)]

mutual

/-- Replaces the names of aliases by the numbers that they have at that point. A name that has not
been met is refused. -/
def numberNode (numbers : AnchorNumbers) : RawNode → Option (Node Nat × AnchorNumbers × Targets)
  | .alias name => (numbers.lookup name).map fun i => (.alias i, numbers, [])
  | .scalar anchor s =>
    some (.scalar anchor s, register numbers anchor, targetOf numbers anchor (.scalar anchor s))
  | .sequence anchor items =>
    (numberItems (register numbers anchor) items).map fun r =>
      (.sequence anchor r.1, r.2.1, targetOf numbers anchor (.sequence anchor r.1) ++ r.2.2)
  | .mapping anchor entries =>
    (numberEntries (register numbers anchor) entries).map fun r =>
      (.mapping anchor r.1, r.2.1, targetOf numbers anchor (.mapping anchor r.1) ++ r.2.2)

/-- The same for the items of a sequence. -/
def numberItems (numbers : AnchorNumbers) :
    List RawNode → Option (List (Node Nat) × AnchorNumbers × Targets)
  | [] => some ([], numbers, [])
  | n :: ns =>
    match numberNode numbers n with
    | none => none
    | some (n, numbers, ts) =>
      (numberItems numbers ns).map fun r => (n :: r.1, r.2.1, ts ++ r.2.2)

/-- The same for the entries of a mapping. -/
def numberEntries (numbers : AnchorNumbers) :
    List (RawNode × RawNode) → Option (List (Node Nat × Node Nat) × AnchorNumbers × Targets)
  | [] => some ([], numbers, [])
  | (k, v) :: es =>
    match numberNode numbers k with
    | none => none
    | some (k, numbers, ks) =>
      match numberNode numbers v with
      | none => none
      | some (v, numbers, vs) =>
        (numberEntries numbers es).map fun r => ((k, v) :: r.1, r.2.1, ks ++ vs ++ r.2.2)

end

/-! ## Documents -/

structure Document where
  /-- The node that holds all others. -/
  root : Node Nat
  /-- The nodes that aliases lead to. -/
  targets : Targets

/-- A reader of a document. Its state is the number of aliases that it may still follow. -/
abbrev Reader (α : Type) := StateT Nat Option α

namespace Document

/-- The node itself, or the one that an alias leads to, which uses up one of the aliases that may be
followed. If several nodes have its number, it is the one that begins last. -/
def follow (d : Document) : Node Nat → Reader (Node Nat)
  | .alias i => do
    let left ← get
    if left = 0 then failure
    set (left - 1)
    d.targets.reverse.lookup i
  | n => return n

/-- The number of aliases that may be followed: a hundred for each part of the document. -/
def aliasLimit (d : Document) : Nat := 100 * d.root.partCount

/-- Reads the whole document. -/
def read? {α : Type} (d : Document) (read : Node Nat → Reader α) : Option α :=
  (d.follow d.root >>= read).run' d.aliasLimit

/-- The text holds nothing more than ends of documents. -/
def isFinished (ts : List Token) : Bool :=
  (ts.dropWhile (· = .documentEnd)).head? = some .streamEnd

/-- The next token begins no content. -/
def isVacant : List Token → Bool
  | .version .. :: _ | .tagMeaning .. :: _ | .documentStart :: _ | .documentEnd :: _
  | .streamEnd :: _ => true
  | _ => false

/-- The next token cannot stand at the beginning of content without a document indicator. -/
def needsStart : List Token → Bool
  | .version .. :: _ | .tagMeaning .. :: _ | .documentStart :: _ => true
  | _ => false

def readContent (meanings : RawNode.TagMeanings) (ts : List Token) : RawNode.Reading RawNode :=
  RawNode.read (meanings ++ defaultMeanings) (3 * ts.length + 3) true false ts

/-- Reads the only document of a list of tokens. A text without tokens holds an empty one. -/
def ofTokens? (ts : List Token) : Option RawNode :=
  let content : RawNode.Reading RawNode :=
    if ts.head? = some .streamEnd then some (.blank, ts)
    else if needsStart ts then
      match takeDirectives {} ts with
      | some (d, .documentStart :: ts) =>
        if isVacant ts then some (.blank, ts) else readContent d.meanings ts
      | _ => none
    else readContent [] ts
  match content with
  | some (n, ts) => if isFinished ts then some n else none
  | none => none

/-- Reads a text that holds one document. -/
def parse? (s : String) : Option Document := do
  let n ← ofTokens? (← tokens? s.toList)
  let (root, _, targets) ← numberNode [] n
  return ⟨root, targets⟩

end Document

end NodeAtlas.Yaml
