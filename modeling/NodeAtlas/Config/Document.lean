import NodeAtlas.Config.Environment
import NodeAtlas.Secret.FileTree
import NodeAtlas.Yaml.Document

/-!
# Configuration documents

The configuration as a YAML document of nested sections. A section that is missing or left empty has
its default settings, settings with unknown names are ignored, and no setting of a section comes
twice.
-/

namespace NodeAtlas.Config

open NodeAtlas.Text NodeAtlas.Yaml

/-! ## Scalars -/

/-- Reads the text of any scalar. -/
def readText : Node Nat → Reader String
  | .scalar _ s => return s.text
  | _ => failure

/-- The scalar may stand for a value that is no text: it is plain, or a block whose tag says so. -/
def isTyped (tag : String) (s : Scalar) : Bool :=
  s.style == .plain || (s.style == .literal && s.tag == some ("tag:yaml.org,2002:" ++ tag))

/-- The truth value that a word stands for. -/
def truthOf? (s : String) : Option Bool :=
  if s = "true" ∨ s = "True" ∨ s = "TRUE" then some true
  else if s = "false" ∨ s = "False" ∨ s = "FALSE" then some false
  else none

/-- Reads a truth value. -/
def readTruth : Node Nat → Reader Bool
  | .scalar _ s => if isTyped "bool" s then truthOf? s.text else failure
  | _ => failure

/-- The value of digits in a radix, if there is at least one and all are digits. -/
def digitsValue? (radix : Nat) (cs : List Char) : Option Nat :=
  let ds := cs.filterMap (digit? radix)
  if cs.isEmpty || ds.length ≠ cs.length then none
  else some (ds.foldl (fun n d => n * radix + d) 0)

/-- Reads an unsigned numeral: decimal without leading zeros, or with a mark for another radix. -/
def naturalOf? (cs : List Char) : Option Nat :=
  let cs := match cs with
    | '+' :: rest => rest
    | cs => cs
  match cs with
  | '0' :: 'x' :: rest => digitsValue? 16 rest
  | '0' :: 'o' :: rest => digitsValue? 8 rest
  | '0' :: 'b' :: rest => digitsValue? 2 rest
  | '0' :: _ :: _ => none
  | cs => digitsValue? 10 cs

/-- Reads an unsigned number below a bound. -/
def readNatural (bound : Nat) : Node Nat → Reader Nat
  | .scalar _ s =>
    if isTyped "int" s then (naturalOf? s.text.toList).filter (· < bound) else failure
  | _ => failure

def readPortNumber (n : Node Nat) : Reader UInt16 := UInt16.ofNat <$> readNatural UInt16.size n

/-- Reads a number of 32 bits. -/
def readUInt32 (n : Node Nat) : Reader UInt32 := UInt32.ofNat <$> readNatural UInt32.size n

/-- Reads a number of 64 bits. -/
def readUInt64 (n : Node Nat) : Reader UInt64 := UInt64.ofNat <$> readNatural UInt64.size n

/-- The words for an absent value. -/
def isNullWord (s : String) : Bool := s = "null" ∨ s = "Null" ∨ s = "NULL" ∨ s = "~"

/-- The tag of an absent value. -/
def nullTag : String := "tag:yaml.org,2002:null"

/-- The node says that the value is absent: it is empty, or one of the words for that. A tag that
says so must not stand at anything else, and any other tag makes the value present. -/
def isAbsent : Node Nat → Reader Bool
  | .scalar _ s =>
    if s.style ≠ .plain then return false
    else
      match s.tag with
      | some tag =>
        if tag ≠ nullTag then return false
        else if isNullWord s.text then return true
        else failure
      | none => return s.text.isEmpty || isNullWord s.text
  | _ => return false

/-- Reads a value that may be absent. -/
def readOptional {α : Type} (read : Node Nat → Reader α) (n : Node Nat) : Reader (Option α) := do
  if ← isAbsent n then return none
  some <$> read n

/-! ## Sections -/

/-- The entries of a section; an empty plain scalar has none. -/
def entriesOf : Node Nat → Reader (List (Node Nat × Node Nat))
  | .mapping _ es => return es
  | .scalar _ s => if s.style = .plain ∧ s.text.isEmpty then return [] else failure
  | _ => failure

/-- The name of a setting. -/
def nameOf (d : Document) (key : Node Nat) : Reader String := d.follow key >>= readText

/-- The settings with known names, none of which comes twice. -/
def pick (d : Document) (known : List String) (settings : List (String × Node Nat)) :
    List (Node Nat × Node Nat) → Reader (List (String × Node Nat))
  | [] => return settings
  | (k, v) :: es => do
    let name ← nameOf d k
    if !known.contains name then pick d known settings es
    else if (settings.lookup name).isSome then failure
    else pick d known ((name, v) :: settings) es

/-- The settings of a section. -/
def settingsOf (d : Document) (known : List String) (n : Node Nat) :
    Reader (List (String × Node Nat)) :=
  entriesOf n >>= pick d known []

/-- Reads a setting of a section, or takes its default. -/
def setting {α : Type} (d : Document) (settings : List (String × Node Nat)) (name : String)
    (default : α) (read : Node Nat → Reader α) : Reader α :=
  match settings.lookup name with
  | none => return default
  | some n => d.follow n >>= read

/-- Reads a setting that has no default. -/
def mandatory {α : Type} (d : Document) (settings : List (String × Node Nat)) (name : String)
    (read : Node Nat → Reader α) : Reader α := do
  read (← d.follow (← settings.lookup name))

/-- Reads the limits on requests. -/
def readRateLimit (d : Document) (n : Node Nat) : Reader RateLimit := do
  let s ← settingsOf d ["requests-per-second", "burst-size"] n
  return {
    requestsPerSecond := ← mandatory d s "requests-per-second" readUInt32
    burstSize := ← mandatory d s "burst-size" readUInt32 }

/-- Reads the shared settings. -/
def readGlobal (d : Document) (n : Node Nat) : Reader Global := do
  let s ← settingsOf d ["user", "password", "server", "port", "insecure-flag", "datacenters",
    "secret-name", "secret-namespace", "secrets-directory", "api-disable", "api-binding",
    "ip-family", "session-lifetime-secs", "rate-limit"] n
  let base : Global := {}
  return {
    user := ← setting d s "user" base.user readText
    password := ← setting d s "password" base.password readText
    server := ← setting d s "server" base.server readText
    port := ← setting d s "port" base.port (readOptional readPortNumber)
    insecure := ← setting d s "insecure-flag" base.insecure readTruth
    datacenters := ← setting d s "datacenters" base.datacenters readText
    secretName := ← setting d s "secret-name" base.secretName readText
    secretNamespace := ← setting d s "secret-namespace" base.secretNamespace readText
    secretsDirectory := ← setting d s "secrets-directory" base.secretsDirectory readText
    apiDisable := ← setting d s "api-disable" base.apiDisable readTruth
    apiBinding := ← setting d s "api-binding" base.apiBinding readText
    ipFamily := ← setting d s "ip-family" base.ipFamily readText
    sessionLifetime := ← setting d s "session-lifetime-secs" base.sessionLifetime readUInt64
    rateLimit := ← setting d s "rate-limit" base.rateLimit (readOptional (readRateLimit d)) }

/-- Reads the section of one endpoint. -/
def readSection (d : Document) (n : Node Nat) : Reader Section := do
  let s ← settingsOf d ["user", "password", "server", "port", "insecure-flag", "datacenters",
    "secret-name", "secret-namespace", "ip-family"] n
  let base : Section := {}
  return {
    user := ← setting d s "user" base.user readText
    password := ← setting d s "password" base.password readText
    server := ← setting d s "server" base.server readText
    port := ← setting d s "port" base.port (readOptional readPortNumber)
    insecure := ← setting d s "insecure-flag" base.insecure readTruth
    datacenters := ← setting d s "datacenters" base.datacenters readText
    secretName := ← setting d s "secret-name" base.secretName readText
    secretNamespace := ← setting d s "secret-namespace" base.secretNamespace readText
    ipFamily := ← setting d s "ip-family" base.ipFamily readText }

/-- Reads the sections of endpoints by tenant. The last section of a tenant stays. -/
def readSections (d : Document) (sections : Dict Section) :
    List (Node Nat × Node Nat) → Reader (Dict Section)
  | [] => return sections
  | (k, v) :: es => do
    let tenant ← nameOf d k
    let s ← readSection d (← d.follow v)
    readSections d (sections.insert tenant s) es

/-- Reads the choice of node addresses. -/
def readNodes (d : Document) (n : Node Nat) : Reader Nodes := do
  let s ← settingsOf d ["internal-network-subnet-cidr", "external-network-subnet-cidr",
    "internal-vm-network-name", "external-vm-network-name"] n
  return {
    internalSubnet := ← setting d s "internal-network-subnet-cidr" "" readText
    externalSubnet := ← setting d s "external-network-subnet-cidr" "" readText
    internalNetwork := ← setting d s "internal-vm-network-name" "" readText
    externalNetwork := ← setting d s "external-vm-network-name" "" readText }

/-- Reads the tag categories. -/
def readLabels (d : Document) (n : Node Nat) : Reader Labels := do
  let s ← settingsOf d ["zone", "region"] n
  return { zone := ← setting d s "zone" "" readText, region := ← setting d s "region" "" readText }

/-- Reads the limits of a search. -/
def readDiscovery (d : Document) (n : Node Nat) : Reader Discovery := do
  let s ← settingsOf d ["pool-size", "queue-size", "connection-attempts", "retry-delay-ms"] n
  let base : Discovery := {}
  return {
    poolSize := ← setting d s "pool-size" base.poolSize readUInt64
    queueSize := ← setting d s "queue-size" base.queueSize readUInt64
    connectionAttempts := ← setting d s "connection-attempts" base.connectionAttempts readUInt32
    retryDelay := ← setting d s "retry-delay-ms" base.retryDelay readUInt64 }

/-- Reads a whole configuration. -/
def readConfig (d : Document) (n : Node Nat) : Reader Config := do
  let s ← settingsOf d ["global", "icenters", "nodes", "labels", "discovery"] n
  return {
    global := ← setting d s "global" {} (readGlobal d)
    sections := ← setting d s "icenters" ∅ fun n => entriesOf n >>= readSections d ∅
    nodes := ← setting d s "nodes" {} (readNodes d)
    labels := ← setting d s "labels" {} (readLabels d)
    discovery := ← setting d s "discovery" {} (readDiscovery d) }

/-! ## Texts and files -/

/-- Reads a configuration from the text of a document. -/
def ofText (text : String) : Result Config :=
  match (Document.parse? text).bind fun d => d.read? (readConfig d) with
  | some c => .ok c
  | none => .error (.invalidConfiguration "invalid cloud config")

/-- Reads a configuration from a file and applies the environment to it. -/
def load (files : FileTree) (path : String) (env : Environment) : Result Config := do
  match files.readText? path with
  | none => throw (.invalidConfiguration ("cannot read " ++ path))
  | some text =>
    let c ← ofText text
    match overlay c env with
    | (c, .ok ()) => return c
    | (_, .error e) => throw e

end NodeAtlas.Config
