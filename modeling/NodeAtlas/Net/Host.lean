import NodeAtlas.Error
import NodeAtlas.Net.Address

/-!
# Host names

The address under which an endpoint is configured: an IP address, or a host name made of labels.
-/

namespace NodeAtlas.Net

open NodeAtlas.Text

/-- The greatest length of a host name in bytes. -/
def maxHostLength : Nat := 253

/-- The greatest length of a label in bytes. -/
def maxLabelLength : Nat := 63

/-- A label has 1 to 63 letters, digits and hyphens, and no hyphen at either end. -/
def validateLabel (label : String) : Except ValidationError Unit :=
  let cs := label.toList
  if cs.isEmpty || maxLabelLength < label.utf8ByteSize then
    .error (.format ("Label must be between 1 and " ++ toString maxLabelLength ++ " characters"))
  else if !cs.all (fun c => isAlphanumeric c || c == '-') then
    .error (.format "Label can only contain alphanumeric characters and hyphens")
  else if cs.head? == some '-' || cs.getLast? == some '-' then
    .error (.format "Label cannot start or end with hyphen")
  else .ok ()

/-- The first fault among the labels, if any. -/
def validateLabels : List String → Except ValidationError Unit
  | [] => .ok ()
  | l :: ls =>
    match validateLabel l with
    | .error e => .error e
    | .ok () => validateLabels ls

/-- A host is an IP address or a dotted list of labels of at most 253 bytes. -/
def validateHost (host : String) : Except ValidationError Unit :=
  if host.isEmpty then .error (.field "host" "Host cannot be empty")
  else if (Address.parse? host).isSome then .ok ()
  else if maxHostLength < host.utf8ByteSize then
    .error (.constraint
      ("Host length exceeds maximum of " ++ toString maxHostLength ++ " characters"))
  else validateLabels (split '.' host)

/-- The host as it stands in the authority of a URL: an IPv6 address goes between brackets. -/
def hostAuthority (host : String) : String :=
  match Address.parse? host with
  | some (.v6 _) => "[" ++ host ++ "]"
  | _ => host

end NodeAtlas.Net
