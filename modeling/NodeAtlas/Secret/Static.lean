import NodeAtlas.Credentials
import NodeAtlas.Dict

/-!
# Credentials in memory

Credentials listed by endpoint address, with an optional fallback for all other addresses.
-/

namespace NodeAtlas.Secret

/-- A table of credentials. -/
structure Table where
  /-- The credentials of single endpoints. -/
  servers : Dict Credentials
  /-- The credentials of all others. -/
  fallback : Option Credentials

/-- The credentials for an endpoint address. -/
def Table.credentials (t : Table) (server : String) : Result Credentials :=
  match (t.servers.find? server).or t.fallback with
  | some c => .ok c
  | none => .error (.invalidCredentials ("no credentials stored for " ++ server))

end NodeAtlas.Secret
