import NodeAtlas.Credentials
import NodeAtlas.Secret.FileTree

/-!
# Credentials in a directory

For every endpoint address a directory may hold a file with the username and a file with the
password.
-/

namespace NodeAtlas.Secret

open NodeAtlas.Text

/-- Reads one entry; it is trimmed and must not be empty. -/
def readEntry (files : FileTree) (directory server suffix : String) : Result String :=
  let path := FileTree.joinPath directory (server ++ "." ++ suffix)
  match files.readText? path with
  | none => .error (.invalidCredentials ("cannot read " ++ path))
  | some raw =>
    if isBlankText raw then .error (.invalidCredentials (path ++ " is empty")) else .ok (trim raw)

/-- The credentials for an endpoint address; the username is read first. -/
def directoryCredentials (files : FileTree) (directory server : String) : Result Credentials := do
  let username ← readEntry files directory server "username"
  let password ← readEntry files directory server "password"
  return ⟨username, password⟩

end NodeAtlas.Secret
