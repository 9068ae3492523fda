import NodeAtlas.Error
import NodeAtlas.Text.Ascii
import NodeAtlas.Text.Blank
import NodeAtlas.Text.LowerCase

/-!
# Node identity

The UUID of a machine in canonical form, trimmed and in lower case, and the provider id under which
the cluster knows it.
-/

namespace NodeAtlas

open NodeAtlas.Text

/-- The canonical form of a UUID: trimmed and in lower case. -/
def canonicalize (raw : String) : String := lowerCase (trim raw)

/-- What every provider id begins with. -/
def providerScheme : String := "ics://"

/-- The identity of a machine. -/
structure NodeId where
  /-- The canonical UUID. -/
  uuid : String
  deriving DecidableEq, Repr

namespace NodeId

/-- The identity for any spelling of a UUID. -/
def ofRaw (raw : String) : NodeId := ⟨canonicalize raw⟩

/-- There is no UUID. -/
def isEmpty (i : NodeId) : Bool := i.uuid.isEmpty

/-- The provider id of the machine. -/
def providerId (i : NodeId) : String := providerScheme ++ i.uuid

/-- Reads a provider id or a bare UUID; something must be left of it. -/
def ofProviderId (providerId : String) : Result NodeId :=
  let text := trim providerId
  let i := ofRaw ((dropLead? providerScheme text).getD text)
  if i.isEmpty then
    .error (.validation (.field "providerID" ("'" ++ providerId ++ "' carries no UUID")))
  else .ok i

end NodeId

end NodeAtlas
