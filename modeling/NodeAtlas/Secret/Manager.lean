import NodeAtlas.Secret.Directory
import NodeAtlas.Secret.Static

/-!
# Credential managers

The sources of fresh credentials that can be registered under a secret reference.
-/

namespace NodeAtlas.Secret

/-- A source of credentials. -/
inductive Manager where
  /-- A table in memory. -/
  | table (t : Table)
  /-- A directory with one pair of files for each endpoint. -/
  | directory (path : String)

/-- The credentials that a manager has for an endpoint address. -/
def Manager.credentials (files : FileTree) (m : Manager) (server : String) : Result Credentials :=
  match m with
  | table t => t.credentials server
  | directory path => directoryCredentials files path server

end NodeAtlas.Secret
