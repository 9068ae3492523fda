import NodeAtlas.Credentials
import NodeAtlas.Inventory.Basic
import NodeAtlas.Protocol

/-!
# Sessions

What can be asked of the session with one endpoint.
-/

namespace NodeAtlas

/-- By what a machine is looked up. -/
inductive Lookup where
  /-- Its UUID in canonical form. -/
  | uuid
  | name
  /-- One of its addresses. -/
  | ip
  deriving DecidableEq, Repr

/-- The word for a kind of lookup. -/
def Lookup.word : Lookup → String
  | uuid => "uuid"
  | name => "name"
  | ip => "ip"

namespace Session

inductive Call where
  /-- Logs in unless the session is live. -/
  | connect
  /-- Logs out. -/
  | logout
  /-- Asks whether the session is live. -/
  | isConnected
  /-- Replaces the credentials for the next login. -/
  | updateCredentials (credentials : Credentials)
  | listDatacenters
  /-- Looks up one datacenter. -/
  | getDatacenter (name : String)
  /-- Looks up a machine in a datacenter. -/
  | findMachine (lookup : Lookup) (datacenter : Datacenter) (key : String)
  | listHosts (datacenter : Datacenter)
  /-- Lists the tags of a host, its cluster and its datacenter. -/
  | hostTags (host : String)
  deriving DecidableEq, Repr

abbrev Reply : Call → Type
  | .connect | .logout => Result Unit
  | .isConnected => Bool
  | .updateCredentials _ => Unit
  | .listDatacenters => Result (List Datacenter)
  | .getDatacenter _ => Result Datacenter
  | .findMachine .. => Result Machine
  | .listHosts _ => Result (List Host)
  | .hostTags _ => Result (List Tag)

abbrev interface : Interface := ⟨Call, Reply⟩

end Session

end NodeAtlas
