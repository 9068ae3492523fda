import NodeAtlas.Net.Url.Encoding
import NodeAtlas.Net.Url.Host

/-!
# Web addresses

An absolute web address in its parts, its text, and the resolution of references against it.
-/

namespace NodeAtlas.Net

open NodeAtlas.Text

namespace Url

/-- The two schemes of web addresses. -/
inductive Scheme where
  /-- Plain transport. -/
  | http
  /-- Encrypted transport. -/
  | https
  deriving DecidableEq, Repr

def Scheme.name : Scheme → String
  | http => "http"
  | https => "https"

/-- The port that goes without saying. -/
def Scheme.defaultPort : Scheme → Nat
  | http => 80
  | https => 443

/-- The scheme with the given name. -/
def Scheme.ofName? (s : String) : Option Scheme :=
  if s = "http" then some .http else if s = "https" then some .https else none

/-- Where a web address leads: scheme, host and port. -/
structure Origin where
  scheme : Scheme
  host : Host
  /-- The port, absent when it is the default of the scheme. -/
  port : Option Nat
  deriving DecidableEq, Repr

end Url

/-- An absolute web address without user information. -/
structure Url where
  /-- Scheme, host and port. -/
  origin : Url.Origin
  /-- The encoded segments of the path; there is always one. -/
  path : List String
  /-- The encoded query, if any. -/
  query : Option String
  /-- The encoded fragment, if any. -/
  fragment : Option String
  deriving DecidableEq, Repr

namespace Url

/-- The path with its slashes. -/
def pathText (u : Url) : String := "/" ++ "/".intercalate u.path

/-- Path and query as they go over the wire. -/
def target (u : Url) : String :=
  u.pathText ++ (match u.query with | some q => "?" ++ q | none => "")

/-- The whole address as text. -/
def render (u : Url) : String :=
  u.origin.scheme.name ++ "://" ++ u.origin.host.render ++
    (match u.origin.port with | some p => ":" ++ toString p | none => "") ++
    u.target ++ (match u.fragment with | some f => "#" ++ f | none => "")

/-! ## Reading -/

/-- Reads a port, which may be empty and is dropped if it is the default. -/
def parsePort (scheme : Scheme) (cs : List Char) : Except Fault (Option Nat) :=
  if cs.isEmpty then .ok none
  else
    match readDigits 10 65535 0 cs with
    | .error _ => .error .invalidPort
    | .ok n => .ok (if n = scheme.defaultPort then none else some n)

/-- Cuts host and port at the last colon that is not inside brackets. -/
def hostAndPort (cs : List Char) : List Char × List Char :=
  let port := (cs.reverse.takeWhile (fun c => c ≠ ':' && c ≠ ']')).reverse
  let rest := cs.take (cs.length - port.length)
  if rest.getLast? = some ':' then (rest.dropLast, port) else (cs, [])

/-- Drops user information, up to the last at sign. -/
def dropUserInfo (cs : List Char) : List Char :=
  (cs.reverse.takeWhile (· ≠ '@')).reverse

/-- Reads an authority. -/
def Origin.parse (scheme : Scheme) (authority : List Char) : Except Fault Origin :=
  let (host, port) := hostAndPort (dropUserInfo authority)
  match Host.parse (String.ofList host) with
  | .error e => .error e
  | .ok h =>
    match parsePort scheme port with
    | .error e => .error e
    | .ok p => .ok ⟨scheme, h, p⟩

/-- The address of the root of a server. -/
def ofAuthority (scheme : Scheme) (authority : String) : Except Fault Url :=
  match Origin.parse scheme authority.toList with
  | .error e => .error e
  | .ok o => .ok ⟨o, [""], none, none⟩

/-! ## References -/

/-- A slash of either kind. -/
def isSlash (c : Char) : Bool := c == '/' || c == '\\'

/-- Cuts a path at every slash. -/
def pathPieces : List Char → List (List Char)
  | [] => [[]]
  | c :: cs =>
    if isSlash c then [] :: pathPieces cs
    else
      match pathPieces cs with
      | [] => [[c]]
      | w :: ws => (c :: w) :: ws

/-- A segment with every encoded dot written as a dot, in lower case. -/
def dotForm : List Char → List Char
  | '%' :: '2' :: 'e' :: cs | '%' :: '2' :: 'E' :: cs => '.' :: dotForm cs
  | c :: cs => c :: dotForm cs
  | [] => []

/-- Walks through the pieces of a path from the segments `done`: one dot stays, two dots go up, and
either of them at the end leaves an empty segment. -/
def walk (done : List String) : List (List Char) → List String
  | [] => done
  | [p] =>
    if dotForm p = ['.', '.'] then done.dropLast ++ [""]
    else if dotForm p = ['.'] then done ++ [""]
    else done ++ [String.ofList (percentEncode escapesInPath p)]
  | p :: q :: ps =>
    if dotForm p = ['.', '.'] then walk done.dropLast (q :: ps)
    else if dotForm p = ['.'] then walk done (q :: ps)
    else walk (done ++ [String.ofList (percentEncode escapesInPath p)]) (q :: ps)

/-- The parts of a reference behind its authority. -/
structure Tail where
  path : List Char
  /-- The query, if a question mark introduces one. -/
  query : Option (List Char)
  /-- The fragment, if a number sign introduces one. -/
  fragment : Option (List Char)

/-- Cuts a reference at the first question mark and the first number sign. -/
def Tail.ofChars (cs : List Char) : Tail :=
  let front := cs.takeWhile (· ≠ '#')
  let fragment := (cs.dropWhile (· ≠ '#')).tail?
  ⟨front.takeWhile (· ≠ '?'), (front.dropWhile (· ≠ '?')).tail?, fragment⟩

/-- The encoded query of a reference. -/
def Tail.encodedQuery (t : Tail) : Option String :=
  t.query.map fun q => String.ofList (percentEncode escapesInQuery q)

/-- The encoded fragment of a reference. -/
def Tail.encodedFragment (t : Tail) : Option String :=
  t.fragment.map fun f => String.ofList (percentEncode escapesInFragment f)

/-- The reference without control characters and spaces at its ends, and without tabs and
line ends. -/
def clean (cs : List Char) : List Char :=
  let isEdge (c : Char) : Bool := c.toNat ≤ 32
  let body := ((cs.dropWhile isEdge).reverse.dropWhile isEdge).reverse
  body.filter fun c => c ≠ '\t' ∧ c ≠ '\n' ∧ c ≠ '\r'

/-- The scheme at the front of a reference in lower case, and what follows its colon. -/
def schemePart? (cs : List Char) : Option (String × List Char) :=
  let name := cs.takeWhile fun c => isAlphanumeric c || c == '+' || c == '-' || c == '.'
  match name, cs.drop name.length with
  | c :: _, ':' :: rest =>
    if c.isAlpha then some (String.ofList (name.map Char.toLower), rest) else none
  | _, _ => none

/-- The path of an absolute reference behind its authority. -/
def rootPath (path : List Char) : List String :=
  match path with
  | [] => [""]
  | c :: cs => walk [] (pathPieces (if isSlash c then cs else c :: cs))

/-- A reference that names an authority, given behind its slashes. -/
def absolute (scheme : Scheme) (cs : List Char) : Except Fault Url :=
  let ends (c : Char) : Bool := isSlash c || c == '?' || c == '#'
  match Origin.parse scheme (cs.takeWhile fun c => !ends c) with
  | .error e => .error e
  | .ok o =>
    let t := Tail.ofChars (cs.dropWhile fun c => !ends c)
    .ok ⟨o, rootPath t.path, t.encodedQuery, t.encodedFragment⟩

/-- A reference without scheme. -/
def relative (base : Url) (cs : List Char) : Except Fault Url :=
  match cs with
  | a :: b :: rest =>
    if isSlash a && isSlash b then absolute base.origin.scheme (rest.dropWhile isSlash)
    else go (a :: b :: rest)
  | cs => go cs
where
  /-- A reference that stays on the server of the base. -/
  go (cs : List Char) : Except Fault Url :=
    let t := Tail.ofChars cs
    match t.path with
    | [] =>
      let query := if t.query.isSome then t.encodedQuery else base.query
      .ok ⟨base.origin, base.path, query, t.encodedFragment⟩
    | c :: p =>
      if isSlash c then
        .ok ⟨base.origin, walk [] (pathPieces p), t.encodedQuery, t.encodedFragment⟩
      else
        .ok ⟨base.origin, walk base.path.dropLast (pathPieces (c :: p)), t.encodedQuery,
          t.encodedFragment⟩

/-- Resolves a reference against an address. -/
def join (base : Url) (reference : String) : Except Fault Url :=
  let cs := clean reference.toList
  match schemePart? cs with
  | none => relative base cs
  | some (name, rest) =>
    match Scheme.ofName? name with
    | none => .error .foreignScheme
    | some scheme =>
      let slashes := (rest.takeWhile isSlash).length
      if scheme = base.origin.scheme ∧ slashes < 2 then relative base rest
      else absolute scheme (rest.dropWhile isSlash)

/-- The address with the pairs added to its query. -/
def withPairs (u : Url) (pairs : List (String × String)) : Url :=
  if pairs.isEmpty then u
  else
    let old := match u.query with
      | some q => if q.isEmpty then "" else q ++ "&"
      | none => ""
    { u with query := some (old ++ String.ofList (formPairs pairs)) }

end Url

end NodeAtlas.Net
